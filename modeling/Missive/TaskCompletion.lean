import Missive.ContextLinks

/-! The completion time of a task. A report that replaces the row sets or clears the
time together with the state. A report that is merged into the row keeps the old
time when the state is not terminal, and every terminal report writes a new one;
so time and state agree only as long as no such report meets a finished task. -/
namespace Missive.TaskCompletion

open JsonValue KeyedTable Missive.Core Schema Effects Repository Artifacts BackgroundJobs Protocol
open GatewayPersistence TaskReports TaskIsolation

def reportsOpen (state : ProtocolTaskState) : Bool := !isTerminalTaskState (storeTaskState state)

def replyReportsOpen : SendMessageResponse → Bool
  | .task task => reportsOpen task.status.state
  | .message _ => true

/-- The operation replaces the row by one that is not terminal, or reports no state and keeps
the time: what may happen to a finished task. -/
def sparesFinished : Operation → Bool
  | .streamRequest _ _ | .streamEvent _ _ _ => false
  | .send _ _ outcome | .jobSend _ _ _ outcome => replyReportsOpen outcome.response
  | .refresh _ task | .barrier _ task => reportsOpen task.status.state
  | .jobWait _ _ outcome => reportsOpen outcome.task.status.state
  | .jobStream _ _ event =>
      match event.event with
      | .task task => reportsOpen task.status.state
      | .statusUpdate _ => false
      | .message _ | .artifactUpdate _ => true
  | .subscription _ _ _ _ event => (Subscription.reportedState event.event).isNone

def TimeAgrees (row : TaskRecord) : Prop := row.completedAt.isSome = isTerminalTaskState row.state

def TimesAgree (table : Table TaskRecord) : Prop := ∀ row ∈ table.rows, TimeAgrees row

/-- No finished task is under the id that the operation rewrites, unless it spares it. -/
def Orderly (operation : Operation) (table : Table TaskRecord) : Prop :=
  ∀ row ∈ table.rows, rewrites operation = some row.taskId.text →
    isTerminalTaskState row.state = true → sparesFinished operation = true

/-! Columns. -/

def Consistent (columns : TaskColumns) : Prop :=
  ∀ time, columns.completion.Fits time → time.isSome = isTerminalTaskState columns.state

-- Between two terminal states the time is the one the row had.
def KeepsTime (existing : Option TaskRecord) (columns : TaskColumns) : Prop :=
  ∀ row, existing = some row → isTerminalTaskState row.state = true →
    isTerminalTaskState columns.state = true → columns.completion = .kept row.completedAt

-- The row found, if any, agrees and is finished only where that is allowed.
def Found (allowed : Bool) (existing : Option TaskRecord) : Prop :=
  ∀ row, existing = some row →
    TimeAgrees row ∧ (isTerminalTaskState row.state = true → allowed = true)

section Columns

variable {existing : Option TaskRecord} {allowed : Bool}

theorem completion_consistent {state : TaskState} {otherwise : Option SecondTime}
    (blank : isTerminalTaskState state = false → otherwise = none) (time : Option SecondTime)
    (fits : (completionOf state otherwise).Fits time) :
    time.isSome = isTerminalTaskState state := by
  unfold completionOf at fits
  cases terminal : isTerminalTaskState state with
  | true =>
      rw [if_pos terminal] at fits
      exact fits
  | false =>
      rw [if_neg (by simp [terminal])] at fits
      rw [show time = otherwise from fits, blank terminal]
      rfl

-- Where no finished row is found there is no time to keep.
theorem found_open (found : Found false existing) : existing.bind TaskRecord.completedAt = none := by
  cases existing with
  | none => rfl
  | some row =>
      obtain ⟨agrees, never⟩ := found row rfl
      have open_ : isTerminalTaskState row.state = false := by
        cases shown : isTerminalTaskState row.state with
        | true => exact absurd (never shown) (by simp)
        | false => rfl
      rw [TimeAgrees, open_] at agrees
      simpa using agrees

theorem keepsTime_open {columns : TaskColumns} (found : Found false existing) :
    KeepsTime existing columns := by
  intro row same terminal
  exact absurd ((found row same).2 terminal) (by simp)

theorem fresh_agrees {agent : AgentAlias} {contextId : ContextId} {state : TaskState}
    {value : Option Json} {version : String}
    (found : Found (!isTerminalTaskState state) existing) :
    Consistent (freshColumns agent contextId state value version) ∧
      KeepsTime existing (freshColumns agent contextId state value version) := by
  constructor
  · exact completion_consistent fun _ => rfl
  · intro row same terminal still
    have open_ := (found row same).2 terminal
    rw [show isTerminalTaskState state = true from still] at open_
    exact absurd open_ (by simp)

theorem merged_agrees {columns : TaskColumns} {state : TaskState} (found : Found false existing)
    (stateOf : columns.state = state)
    (timeOf : columns.completion = completionOf state (existing.bind TaskRecord.completedAt)) :
    Consistent columns ∧ KeepsTime existing columns := by
  constructor
  · intro time fits
    rw [timeOf] at fits
    rw [stateOf]
    exact completion_consistent (fun _ => found_open found) time fits
  · exact keepsTime_open found

theorem stateless_agrees {agent : AgentAlias} {contextId : Option ContextId}
    {value : Option Json → Option Json} {version : String} (found : Found allowed existing) :
    Consistent (copiedColumns agent contextId none value version existing) ∧
      KeepsTime existing (copiedColumns agent contextId none value version existing) := by
  cases existing with
  | none =>
      constructor
      · intro time fits
        rw [show time = none from fits]
        rfl
      · intro row same
        cases same
  | some row =>
      constructor
      · intro time fits
        rw [show time = row.completedAt from fits]
        exact (found row rfl).1
      · intro other same _ _
        cases same
        rfl

end Columns

section Writes

variable {codec : Codec} {agent : AgentAlias} {version : String} {existing : Option TaskRecord}
  {write : TaskWrite} {columns : TaskColumns}

theorem freshWrite_agrees {task : RemoteTask} {state : TaskState}
    (parsed : freshWrite codec agent version task state = .ok (some write))
    (found : Found (!isTerminalTaskState state) existing)
    (shown : write.columns existing = some columns) :
    Consistent columns ∧ KeepsTime existing columns := by
  obtain ⟨taskId, _, rest⟩ := except_bind_returned parsed
  obtain ⟨contextId, _, same⟩ := except_bind_returned rest
  cases same
  cases shown
  exact fresh_agrees found

theorem gatewayFresh_agrees {task : RemoteTask}
    (parsed : freshWrite codec agent version task (mapProtocolTaskState task.status.state) =
      .ok (some write)) (found : Found (reportsOpen task.status.state) existing)
    (shown : write.columns existing = some columns) :
    Consistent columns ∧ KeepsTime existing columns := by
  rw [mapProtocolTaskState_eq] at parsed
  exact freshWrite_agrees parsed found shown

theorem streamWrite_agrees {event : StreamResponse}
    (parsed : streamWrite codec agent version event = .ok (some write))
    (found : Found false existing) (shown : write.columns existing = some columns) :
    Consistent columns ∧ KeepsTime existing columns := by
  obtain ⟨ids, _, same⟩ := except_bind_returned parsed
  obtain ⟨taskId, _, made⟩ := Option.map_eq_some_iff.mp (Except.ok.inj same)
  cases made
  cases shown
  cases event <;> exact merged_agrees found rfl rfl

theorem sendWrite_agrees {prepared : PreparedMessage} {response : SendMessageResponse}
    (parsed : sendWrite codec agent version prepared response = .ok (some write))
    (found : Found (replyReportsOpen response) existing)
    (shown : write.columns existing = some columns) :
    Consistent columns ∧ KeepsTime existing columns := by
  cases response with
  | task task => exact freshWrite_agrees parsed found shown
  | message message =>
      obtain ⟨contextId, _, rest⟩ := except_bind_returned parsed
      obtain ⟨named, _, same⟩ := except_bind_returned rest
      obtain ⟨taskId, _, made⟩ := Option.map_eq_some_iff.mp (Except.ok.inj same)
      cases made
      cases existing with
      | some row => cases shown
      | none =>
          cases shown
          constructor
          · intro time fits
            rw [show time = none from fits]
            rfl
          · intro row same
            cases same

theorem statusWrite_agrees {update : TaskStatusUpdateEvent}
    (parsed : statusWrite agent version update = .ok (some write)) (found : Found false existing)
    (shown : write.columns existing = some columns) :
    Consistent columns ∧ KeepsTime existing columns := by
  obtain ⟨taskId, _, rest⟩ := except_bind_returned parsed
  obtain ⟨contextId, _, same⟩ := except_bind_returned rest
  cases same
  cases shown
  exact merged_agrees found rfl rfl

theorem subscriptionWrite_agrees {event : StreamResponse}
    (parsed : subscriptionWrite codec agent version event = .ok (some write))
    (found : Found (Subscription.reportedState event).isNone existing)
    (shown : write.columns existing = some columns) :
    Consistent columns ∧ KeepsTime existing columns := by
  obtain ⟨ids, _, same⟩ := except_bind_returned parsed
  obtain ⟨taskId, _, made⟩ := Option.map_eq_some_iff.mp (Except.ok.inj same)
  cases made
  cases shown
  cases reported : Subscription.reportedState event with
  | none => exact stateless_agrees found
  | some state =>
      rw [reported] at found
      exact merged_agrees found rfl rfl

end Writes

theorem write_agrees (codec : Codec) (agent : AgentAlias) (operation : Operation) {write : TaskWrite}
    {existing : Option TaskRecord} {columns : TaskColumns}
    (parsed : operation.write codec agent = .ok (some write))
    (found : Found (sparesFinished operation) existing)
    (shown : write.columns existing = some columns) :
    Consistent columns ∧ KeepsTime existing columns := by
  cases operation with
  | streamRequest parameters prepared =>
      obtain ⟨taskId, _, made⟩ := Option.map_eq_some_iff.mp (Except.ok.inj parsed)
      cases made
      cases shown
      exact merged_agrees found rfl rfl
  | streamEvent parameters event base => exact streamWrite_agrees parsed found shown
  | send parameters prepared outcome => exact sendWrite_agrees parsed found shown
  | refresh parameters task => exact freshWrite_agrees parsed found shown
  | barrier parameters task => exact freshWrite_agrees parsed found shown
  | jobSend config job request outcome =>
      obtain ⟨url, status, response, raw⟩ := outcome
      cases response with
      | task task => exact gatewayFresh_agrees parsed found shown
      | message message => cases parsed
  | jobStream config job event =>
      obtain ⟨sequence, sse, event, raw⟩ := event
      cases event with
      | task task => exact gatewayFresh_agrees parsed found shown
      | statusUpdate update => exact statusWrite_agrees parsed found shown
      | message message => cases parsed
      | artifactUpdate update => cases parsed
  | jobWait config job outcome => exact gatewayFresh_agrees parsed found shown
  | subscription config task job interface event => exact subscriptionWrite_agrees parsed found shown

/-! One operation. -/

/-- Where the row under the id is terminal before and after, its time is the same. -/
def FinishedKept (taskId : TaskId) (before after : Table TaskRecord) : Prop :=
  ∀ old new, before.find? taskId = some old → after.find? taskId = some new →
    isTerminalTaskState old.state = true → isTerminalTaskState new.state = true →
    new.completedAt = old.completedAt

theorem finishedKept_refl (taskId : TaskId) (table : Table TaskRecord) :
    FinishedKept taskId table table := by
  intro old new found shown _ _
  cases found.symm.trans shown
  rfl

theorem put_agrees {table : Table TaskRecord} {taskId : TaskId} {columns : TaskColumns}
    {row : TaskRecord} (agree : TimesAgree table) (keyed : row.taskId = taskId)
    (fits : columns.Fits row) (consistent : Consistent columns)
    (keeps : KeepsTime (table.find? taskId) columns) :
    TimesAgree (table.put row) ∧ ∀ other, FinishedKept other table (table.put row) := by
  constructor
  · intro stored member
    rcases (table.mem_put row stored).mp member with same | ⟨old, _⟩
    · rw [same, TimeAgrees, fits.state]
      exact consistent _ fits.completion
    · exact agree stored old
  · intro other old new found shown before still
    rw [table.find?_put] at shown
    split at shown
    · rename_i named
      cases shown
      rw [show other = taskId from named.trans keyed] at found
      have kept := keeps old found before (by rwa [← fits.state])
      have time := fits.completion
      rw [kept] at time
      exact time
    · cases found.symm.trans shown
      rfl

theorem run_agrees (codec : Codec) (agent : AgentRecord) (operation : Operation) (world : World)
    (agree : TimesAgree world.store.tasks) (orderly : Orderly operation world.store.tasks) :
    TimesAgree (operation.run codec agent world).2.store.tasks ∧
      ∀ taskId, FinishedKept taskId world.store.tasks
        (operation.run codec agent world).2.store.tasks := by
  have unchanged {after : World} (same : after.store.tasks = world.store.tasks) :
      TimesAgree after.store.tasks ∧
        ∀ taskId, FinishedKept taskId world.store.tasks after.store.tasks := by
    rw [same]
    exact ⟨agree, fun taskId => finishedKept_refl taskId _⟩
  cases ran : operation.run codec agent world with
  | mk outcome after =>
      cases outcome with
      | error error =>
          exact unchanged (congrArg Store.tasks (run_failed codec agent operation ran))
      | ok _ =>
          obtain ⟨write, parsed, applied⟩ := run_applied codec agent operation ran
          cases write with
          | none => exact unchanged applied
          | some write =>
              cases shown : write.columns (world.store.tasks.find? write.taskId) with
              | none =>
                  simp only [Applied, shown] at applied
                  exact unchanged applied
              | some columns =>
                  simp only [Applied, shown] at applied
                  obtain ⟨row, put, keyed, fits⟩ := applied
                  have found : Found (sparesFinished operation)
                      (world.store.tasks.find? write.taskId) := by
                    intro old same
                    obtain ⟨member, named⟩ :=
                      (world.store.tasks.find?_eq_some write.taskId old).mp same
                    refine ⟨agree old member, fun terminal => orderly old member ?_ terminal⟩
                    rw [same] at shown
                    rcases write_described codec agent.aliasName operation parsed with takes | leaves
                    · rw [takes.1, ← show old.taskId = write.taskId from named]
                    · rw [leaves.2 old] at shown
                      contradiction
                  obtain ⟨consistent, keeps⟩ :=
                    write_agrees codec agent.aliasName operation parsed found shown
                  rw [put]
                  exact put_agrees agree keyed fits consistent keeps

/-! Runs. Each step is an operation in any order, for any agent, or anything that leaves the
tasks alone. -/

inductive Step (codec : Codec) : World → World → Prop
  | operation (agent : AgentRecord) (operation : Operation) (world : World) :
      Step codec world (operation.run codec agent world).2
  | elsewhere (world after : World) (kept : after.store.tasks = world.store.tasks) :
      Step codec world after

inductive OrderlyStep (codec : Codec) : World → World → Prop
  | operation (agent : AgentRecord) (operation : Operation) (world : World)
      (orderly : Orderly operation world.store.tasks) :
      OrderlyStep codec world (operation.run codec agent world).2
  | elsewhere (world after : World) (kept : after.store.tasks = world.store.tasks) :
      OrderlyStep codec world after

/-- The worlds that a sequence of steps reaches from one without tasks. -/
inductive Reached (step : World → World → Prop) : World → Prop
  | start (world : World) (none_ : world.store.tasks.rows = []) : Reached step world
  | next (world after : World) (before : Reached step world) (moved : step world after) :
      Reached step after

def Finished (taskId : TaskId) (world : World) : Prop :=
  ∃ row, world.store.tasks.find? taskId = some row ∧ isTerminalTaskState row.state = true

/-- Steps along which the task is in a terminal state all the time. -/
inductive StaysFinished (step : World → World → Prop) (taskId : TaskId) (first : World) :
    World → Prop
  | here (finished : Finished taskId first) : StaysFinished step taskId first first
  | next (world last : World) (before : StaysFinished step taskId first world)
      (moved : step world last) (finished : Finished taskId last) :
      StaysFinished step taskId first last

def completionTime (taskId : TaskId) (world : World) : Option SecondTime :=
  (world.store.tasks.find? taskId).bind TaskRecord.completedAt

section Runs

variable {codec : Codec} {taskId : TaskId} {world first last after : World}

theorem step_agrees (agree : TimesAgree world.store.tasks) (moved : OrderlyStep codec world after) :
    TimesAgree after.store.tasks ∧
      ∀ taskId, FinishedKept taskId world.store.tasks after.store.tasks := by
  cases moved with
  | operation agent operation _ orderly => exact run_agrees codec agent operation world agree orderly
  | elsewhere _ _ kept =>
      rw [kept]
      exact ⟨agree, fun taskId => finishedKept_refl taskId _⟩

theorem reached_agrees (reached : Reached (OrderlyStep codec) world) :
    TimesAgree world.store.tasks := by
  induction reached with
  | start world none_ =>
      intro row member
      rw [none_] at member
      contradiction
  | next world after _ moved ih => exact (step_agrees ih moved).1

theorem staysFinished_ends {step : World → World → Prop}
    (stays : StaysFinished step taskId first last) : Finished taskId last := by
  cases stays with
  | here finished => exact finished
  | next _ _ _ _ finished => exact finished

theorem stays_agrees (agree : TimesAgree first.store.tasks)
    (stays : StaysFinished (OrderlyStep codec) taskId first last) :
    TimesAgree last.store.tasks ∧ completionTime taskId last = completionTime taskId first := by
  induction stays with
  | here finished => exact ⟨agree, rfl⟩
  | next world last before moved finished ih =>
      obtain ⟨middle, same⟩ := ih
      obtain ⟨agrees, kept⟩ := step_agrees middle moved
      obtain ⟨old, found, terminal⟩ := staysFinished_ends before
      obtain ⟨new, shown, still⟩ := finished
      refine ⟨agrees, ?_⟩
      rw [← same]
      simp only [completionTime, found, shown, Option.bind_some]
      exact kept taskId old new found shown terminal still

end Runs

/-- In every run whose operations find no finished task, or spare it, each stored task has a
completion time exactly in a terminal state, and keeps it for as long as it stays in one. -/
theorem completion_follows_state (codec : Codec) (world : World)
    (reached : Reached (OrderlyStep codec) world) :
    (∀ row ∈ world.store.tasks.rows, row.completedAt.isSome = isTerminalTaskState row.state) ∧
    (∀ taskId last, StaysFinished (OrderlyStep codec) taskId world last →
      completionTime taskId last = completionTime taskId world) := by
  constructor
  · exact reached_agrees reached
  · intro taskId last stays
    exact (stays_agrees (reached_agrees reached) stays).2

/-! A task that is reported completed, and after that at work again. -/

def agentWorld : World := (upsertAgent (.new echoAgent "http://127.0.0.1") blankWorld).2

def completing : Operation := .refresh plainParameters (plainTask firstTask .completed)

def completedWorld : World := (completing.run plainCodec echoRecord agentWorld).2

def statusEvent (task : TaskId) (state : ProtocolTaskState) : StreamMessageEvent :=
  ⟨0, none, .statusUpdate ⟨task.text, sharedContext.text, ⟨state, none, none⟩, none⟩,
    .object [("statusUpdate", .object [("contextId", .string sharedContext.text),
      ("status", .object [("state", .string (stateName state))]), ("taskId", .string task.text)])]⟩

def reopening : Operation := .streamEvent plainParameters (statusEvent firstTask .working) .new

def reopenedWorld : World := (reopening.run plainCodec echoRecord completedWorld).2

theorem completedWorld_reached : Reached (OrderlyStep plainCodec) completedWorld := by
  apply Reached.next agentWorld
  · exact .start agentWorld (by rfl)
  · apply OrderlyStep.operation
    intro row member
    rw [show agentWorld.store.tasks.rows = [] by rfl] at member
    contradiction

theorem completed_task_agrees :
    (completedWorld.store.tasks.find? firstTask).map TaskRecord.state = some .completed ∧
      (∀ row ∈ completedWorld.store.tasks.rows,
        row.completedAt.isSome = isTerminalTaskState row.state) ∧
      (∀ taskId last, StaysFinished (OrderlyStep plainCodec) taskId completedWorld last →
        completionTime taskId last = completionTime taskId completedWorld) :=
  ⟨by decide, completion_follows_state plainCodec completedWorld completedWorld_reached⟩

theorem reopened_task_keeps_time :
    Reached (Step plainCodec) reopenedWorld ∧
      (reopening.run plainCodec echoRecord completedWorld).1 = .ok () ∧
      (reopenedWorld.store.tasks.find? firstTask).map
        (fun row => (row.state, row.completedAt.isSome)) = some (.working, true) := by
  refine ⟨?_, by decide, by decide⟩
  apply Reached.next completedWorld
  · exact .next agentWorld _ (.start agentWorld (by rfl)) (.operation _ _ _)
  · exact .operation _ _ _

end Missive.TaskCompletion
