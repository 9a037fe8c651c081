import Missive.TaskIsolation

/-! The link from a task to its context. Every path replaces the link by the one an
event carries; where the event carries none, `stream` keeps the stored link, a
background job leaves the row alone, and a subscription writes the absence. -/
namespace Missive.ContextLinks

open JsonValue KeyedTable Missive.Core Schema Effects Repository Artifacts BackgroundJobs Protocol
open TaskPersistence GatewayPersistence TaskReports TaskIsolation

-- The three paths on which stream events are persisted.
def deliveredEvent : Operation → Option StreamMessageEvent
  | .streamEvent _ event _ | .jobStream _ _ event | .subscription _ _ _ _ event => some event
  | _ => none

def lacksContext : StreamResponse → Bool
  | .message message => message.contextId.isNone
  | _ => false

/-- A message without a context id that arrives on a subscription. -/
def dropsContext : Operation → Bool
  | .subscription _ _ _ _ event => lacksContext event.event
  | _ => false

def ContextLinked (taskId : TaskId) (table : Table TaskRecord) : Prop :=
  ∃ row, table.find? taskId = some row ∧ row.contextId.isSome = true

theorem putsTask_linked {taskId : TaskId} {columns : TaskColumns} {before after : Table TaskRecord}
    (puts : PutsTask taskId columns before after) :
    ContextLinked taskId after ↔ columns.contextId.isSome = true := by
  obtain ⟨row, put, keyed, fits⟩ := puts
  have found : after.find? taskId = some row := by
    rw [put, ← show key row = taskId from keyed]
    exact before.find?_put_self row
  constructor
  · rintro ⟨other, shown, linked⟩
    cases shown.symm.trans found
    rwa [← fits.contextId]
  · intro linked
    exact ⟨row, found, by rwa [fits.contextId]⟩

theorem parsed_isSome {kind : IdKind} {value : Option String} {id : Option (Id kind)}
    (parsed : parseOptional kind value = .ok id) : id.isSome = value.isSome := by
  rw [parseOptional_text parsed, Option.isSome_map]

theorem eventIds_context {event : StreamResponse} {ids : EventIds}
    (parsed : eventIds event = .ok ids) : ids.contextId.isSome = !lacksContext event := by
  have required {taskId contextId : String} (made : requiredIds taskId contextId = .ok ids) :
      ids.contextId.isSome = true := by
    have shown := (requiredIds_text made).2
    cases known : ids.contextId with
    | none => simp [known] at shown
    | some id => rfl
  cases event with
  | task task => exact required parsed
  | message message =>
      obtain ⟨task, _, rest⟩ := except_bind_returned parsed
      obtain ⟨context, contextOf, same⟩ := except_bind_returned rest
      cases same
      rw [parsed_isSome contextOf, lacksContext, Option.not_isNone]
  | statusUpdate update => exact required parsed
  | artifactUpdate update => exact required parsed

section Paths

variable {codec : Codec} {agent : AgentAlias} {version : String} {event : StreamResponse}
  {taskId : TaskId} {row : TaskRecord} {write : Option TaskWrite} {before after : Table TaskRecord}

-- The write of an event about a task is a write to that task.
theorem named_ids {ids : EventIds} (parsed : eventIds event = .ok ids)
    (about : namedTask event = some taskId.text) : ids.taskId = some taskId := by
  have shown := eventIds_task parsed
  rw [about] at shown
  cases known : ids.taskId with
  | none => simp [known] at shown
  | some id =>
      rw [known, Option.map_some] at shown
      rw [Id.ext_text (Option.some.inj shown)]

theorem stream_linked (parsed : streamWrite codec agent version event = .ok write)
    (about : namedTask event = some taskId.text) (found : before.find? taskId = some row)
    (linked : row.contextId.isSome = true) (applied : Applied write before after) :
    ContextLinked taskId after := by
  obtain ⟨ids, known, same⟩ := except_bind_returned parsed
  rw [named_ids known about] at same
  cases same
  have puts : PutsTask taskId (streamColumns codec agent version event ids.contextId (some row))
      before after := by
    rw [← found]
    exact applied
  apply (putsTask_linked puts).mpr
  have merged : (ids.contextId.or row.contextId).isSome = true := by
    rw [Option.isSome_or, linked, Bool.or_true]
  cases event <;> exact merged

theorem job_linked (parsed : jobStreamWrite codec agent version event = .ok write)
    (about : namedTask event = some taskId.text) (found : before.find? taskId = some row)
    (linked : row.contextId.isSome = true) (applied : Applied write before after) :
    ContextLinked taskId after := by
  have kept (same : after = before) : ContextLinked taskId after := by
    rw [same]
    exact ⟨row, found, linked⟩
  cases event with
  | task task =>
      obtain ⟨id, taskOf, rest⟩ := except_bind_returned parsed
      obtain ⟨contextId, _, same⟩ := except_bind_returned rest
      cases same
      have known : id = taskId := Id.ext_text ((Id.text_of_new taskOf).trans (Option.some.inj about))
      subst known
      exact (putsTask_linked applied).mpr rfl
  | statusUpdate update =>
      obtain ⟨id, taskOf, rest⟩ := except_bind_returned parsed
      obtain ⟨contextId, _, same⟩ := except_bind_returned rest
      cases same
      have known : id = taskId := Id.ext_text ((Id.text_of_new taskOf).trans (Option.some.inj about))
      subst known
      exact (putsTask_linked applied).mpr rfl
  | message message =>
      cases parsed
      exact kept applied
  | artifactUpdate update =>
      cases parsed
      exact kept applied

theorem subscription_linked_iff (parsed : subscriptionWrite codec agent version event = .ok write)
    (about : namedTask event = some taskId.text) (applied : Applied write before after) :
    ContextLinked taskId after ↔ lacksContext event = false := by
  obtain ⟨ids, known, same⟩ := except_bind_returned parsed
  rw [named_ids known about] at same
  cases same
  have linked := putsTask_linked applied
  rw [linked, show (copiedColumns agent ids.contextId _ _ version _).contextId = ids.contextId from rfl,
    eventIds_context known, Bool.not_eq_true']

end Paths

/-- A linked task stays linked through every event, except exactly for a message without a
context id on a subscription; an event that cannot be persisted changes nothing. -/
theorem context_link_kept_iff (codec : Codec) (agent : AgentRecord) (operation : Operation)
    (event : StreamMessageEvent) (delivered : deliveredEvent operation = some event)
    (taskId : TaskId) (about : namedTask event.event = some taskId.text) (world : World)
    (linked : ContextLinked taskId world.store.tasks) :
    (∀ after, operation.run codec agent world = (.ok (), after) →
      (ContextLinked taskId after.store.tasks ↔ dropsContext operation = false)) ∧
    (∀ error after, operation.run codec agent world = (.error error, after) →
      ContextLinked taskId after.store.tasks) := by
  constructor
  · intro after ran
    obtain ⟨write, parsed, applied⟩ := run_applied codec agent operation ran
    obtain ⟨row, found, some_⟩ := linked
    cases operation with
    | streamEvent parameters given base =>
        cases delivered
        exact ⟨fun _ => rfl, fun _ => stream_linked parsed about found some_ applied⟩
    | jobStream config job given =>
        cases delivered
        exact ⟨fun _ => rfl, fun _ => job_linked parsed about found some_ applied⟩
    | subscription config task job interface given =>
        cases delivered
        exact subscription_linked_iff parsed about applied
    | streamRequest parameters prepared => cases delivered
    | send parameters prepared outcome => cases delivered
    | refresh parameters task => cases delivered
    | barrier parameters task => cases delivered
    | jobSend config job request outcome => cases delivered
    | jobWait config job outcome => cases delivered
  · intro error after ran
    rw [run_failed codec agent operation ran]
    exact linked

/-! A linked task that an agent writes about with and without naming the context. -/

def watchJob : GatewayJobId := ⟨"task-subscription/echo/task-a", by decide⟩

def watchUpsert : GatewayJobUpsert := .new watchJob "task_subscription" .null

def watchedUpsert : TaskUpsert :=
  { TaskUpsert.new firstTask echoAgent .working with contextId := some sharedContext }

def seedWatched : Action Unit := do
  let _ ← upsertAgent (.new echoAgent "http://127.0.0.1")
  let _ ← upsertContext (.new sharedContext)
  let _ ← upsertTask watchedUpsert
  let _ ← upsertGatewayJob watchUpsert
  pure ()

def watchedWorld : World := (seedWatched blankWorld).2

def plainMessage (messageId : String) (contextId : Option ContextId) (taskId : Option TaskId) :
    Message :=
  ⟨messageId, contextId.map Id.text, taskId.map Id.text, .agent,
    [⟨.text "still working", none, none, none⟩], none, none, none⟩

def messageEvent (message : Message) : StreamMessageEvent :=
  ⟨0, none, .message message, .object [("message", .ofOption id (encodeTextMessage message))]⟩

def watchMessage (contextId : Option ContextId) : StreamMessageEvent :=
  messageEvent (plainMessage "remote-1" contextId (some firstTask))

def watching (contextId : Option ContextId) : Operation :=
  .subscription ⟨"default", plainParameters⟩ (watchedUpsert.toRecord ⟨0⟩ none)
    (watchUpsert.toRecord ⟨0⟩ none)
    ⟨"http+json", "HTTP+JSON", "http://127.0.0.1", none, "1.0", .baseUrlFallback⟩
    (watchMessage contextId)

def watchedAfter (contextId : Option ContextId) : World :=
  ((watching contextId).run plainCodec echoRecord watchedWorld).2

theorem contextLinked_iff (taskId : TaskId) (table : Table TaskRecord) :
    ContextLinked taskId table ↔ ((table.find? taskId).bind TaskRecord.contextId).isSome = true := by
  unfold ContextLinked
  cases table.find? taskId <;> simp

theorem watchedWorld_linked : ContextLinked firstTask watchedWorld.store.tasks :=
  (contextLinked_iff _ _).mpr (by decide)

theorem named_context_kept :
    ContextLinked firstTask (watchedAfter (some sharedContext)).store.tasks := by
  have ran : (watching (some sharedContext)).run plainCodec echoRecord watchedWorld =
      (.ok (), watchedAfter (some sharedContext)) := Prod.ext (by decide) rfl
  exact ((context_link_kept_iff plainCodec echoRecord (watching (some sharedContext))
    (watchMessage (some sharedContext)) rfl firstTask rfl watchedWorld watchedWorld_linked).1
    _ ran).mpr rfl

theorem message_without_context_unlinks :
    namedTask (watchMessage none).event = some firstTask.text ∧
      ContextLinked firstTask watchedWorld.store.tasks ∧
      (watching none).run plainCodec echoRecord watchedWorld = (.ok (), watchedAfter none) ∧
      ¬ ContextLinked firstTask (watchedAfter none).store.tasks := by
  refine ⟨rfl, watchedWorld_linked, Prod.ext (by decide) rfl, ?_⟩
  rw [contextLinked_iff]
  decide

end Missive.ContextLinks
