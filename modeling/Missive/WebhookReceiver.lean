import Missive.Contexts
import Missive.InboundAuth
import Missive.Totality

/-! The receiver of `missive webhook run`. Every callback runs in a handler of its own; the handlers
take turns and share the journal, the two counters and the shutdown controller. A turn ends where
the source awaits the journal and where it touches a counter or the controller. -/
namespace Missive.WebhookReceiver

open JsonValue JsonRedaction Missive.Core Schema Effects Repository BackgroundJobs Protocol
open Contexts InboundAuth.Webhook
open HttpControl (Request insertOptional)

/-- What the receiver takes from the crates `http` and `serde_json`. -/
structure Crates extends HttpControl.Crates where
  /-- `serde_json::from_value::<StreamResponse>`, or the text of its error. -/
  streamResponse : Json → Except String StreamResponse

/-! Configuration. -/

structure WebhookReceiverConfig where
  profile : String
  path : String
  auth : WebhookAuth
  maxEvents : Option Nat
  shutdownAfter : Option Nat
  maxBodyBytes : Nat
  protocolVersion : String

def validateWebhookPath (path : String) : Except MissiveError Unit :=
  if path.toList.head? ≠ some '/' ∨ path = "/" then
    .error ((MissiveError.validation
      "webhook path must start with '/' and include a non-root path segment").withHelp
      "Use a callback path such as /a2a/push.")
  else if path.toList.contains '?' || path.toList.contains '#' ||
      path.toList.any RustText.isWhitespace then
    .error (MissiveError.validation
      "webhook path must not contain whitespace, query strings, or fragments")
  else .ok ()

def validateMaxEvents : Option Nat → Except MissiveError Unit
  | some 0 => .error (MissiveError.validation "--max-events must be greater than zero")
  | _ => .ok ()

def WebhookReceiverConfig.validate (crates : Crates) (config : WebhookReceiverConfig) :
    Except MissiveError Unit := do
  validateWebhookPath config.path
  config.auth.validate crates.toCrates
  validateMaxEvents config.maxEvents
  if config.maxBodyBytes = 0 then
    throw (MissiveError.validation "webhook maximum body size must be greater than zero")
  if (trim config.protocolVersion.toList).isEmpty then
    .error (MissiveError.validation "webhook protocol version fallback cannot be empty")
  else .ok ()

/-! The shutdown controller. -/

inductive ShutdownReason where
  | maxEvents
  | timeout
  | signal
  | serverStopped
  deriving DecidableEq

def ShutdownReason.asStr : ShutdownReason → String
  | .maxEvents => "max_events"
  | .timeout => "timeout"
  | .signal => "signal"
  | .serverStopped => "server_stopped"

-- The reason behind the mutex, and what went through the watch channel.
structure ShutdownController where
  requested : Option ShutdownReason
  sent : List ShutdownReason

def ShutdownController.new : ShutdownController := ⟨none, []⟩

def ShutdownController.request (shutdown : ShutdownController) (reason : ShutdownReason) :
    ShutdownController :=
  match shutdown.requested with
  | some _ => shutdown
  | none => ⟨some reason, shutdown.sent ++ [reason]⟩

def ShutdownController.reason (shutdown : ShutdownController) : ShutdownReason :=
  shutdown.requested.getD .serverStopped

/-! What a payload is about. -/

structure PayloadDetails where
  kind : String
  eventType : String
  taskId : Option TaskId
  contextId : Option ContextId
  state : Option String
  artifactId : Option String

def taskStateLabel : ProtocolTaskState → String
  | .submitted => "submitted"
  | .working => "working"
  | .completed => "completed"
  | .failed | .rejected => "failed"
  | .canceled => "cancelled"
  | .inputRequired | .authRequired => "input_required"
  | .unspecified => "unknown"

def PayloadDetails.fromStreamResponse : StreamResponse → Except MissiveError PayloadDetails
  | .task task => do
      let ids ← requiredIds task.id task.contextId
      .ok ⟨"task", "task", ids.taskId, ids.contextId, some (taskStateLabel task.status.state), none⟩
  | .message message => do
      let taskId ← parseOptional .taskId message.taskId
      let contextId ← parseOptional .contextId message.contextId
      .ok ⟨"message", "message", taskId, contextId, none, none⟩
  | .statusUpdate update => do
      let ids ← requiredIds update.taskId update.contextId
      .ok ⟨"status_update", "status_update", ids.taskId, ids.contextId,
        some (taskStateLabel update.status.state), none⟩
  | .artifactUpdate update => do
      let ids ← requiredIds update.taskId update.contextId
      .ok ⟨"artifact_update", "artifact_update", ids.taskId, ids.contextId, none,
        some update.artifact.artifactId⟩

/-! What a handler decides before it writes. -/

structure Rejection where
  status : Nat
  reason : String
  message : String
  remoteAddr : Option String
  contentType : Option String
  payload : Option Json
  authValidated : Bool

-- The arguments of `persist_accepted_event`.
structure Callback where
  details : PayloadDetails
  rawJson : Json
  protocolVersion : String
  contentType : Option String
  remoteAddr : Option String
  authValidated : Bool

inductive Decision where
  | reject (rejection : Rejection)
  | accept (callback : Callback)

section Handling

variable (crates : Crates) (config : WebhookReceiverConfig)

def handleAuthorizedCallback (request : Request) (authValidated : Bool) : Decision :=
  let remoteAddr := some request.remoteAddr
  let contentType := (request.headers.lookup "content-type").bind crates.toStr
  let protocolVersion :=
    ((request.headers.lookup "a2a-version").bind crates.toStr).getD config.protocolVersion
  match crates.fromSlice request.body with
  | .error error =>
      .reject ⟨400, "invalid_json", s!"request body is not valid JSON: {error}", remoteAddr,
        contentType, none, authValidated⟩
  | .ok rawJson =>
      match crates.streamResponse rawJson with
      | .error error =>
          .reject ⟨400, "invalid_a2a_stream_response",
            s!"request body is not an A2A StreamResponse payload: {error}", remoteAddr,
            contentType, some (webhookRedactJson rawJson), authValidated⟩
      | .ok response =>
          match PayloadDetails.fromStreamResponse response with
          | .error error =>
              .reject ⟨400, "invalid_a2a_identifiers", error.detail, remoteAddr, contentType,
                some (webhookRedactJson rawJson), authValidated⟩
          | .ok details =>
              .accept ⟨details, rawJson, protocolVersion, contentType, remoteAddr, authValidated⟩

def pushCallback (request : Request) : Decision :=
  match config.auth.validateHeaders crates.toCrates request.headers with
  | .ok authValidated => handleAuthorizedCallback crates config request authValidated
  | .error reason =>
      .reject ⟨401, "auth_failed", reason, some request.remoteAddr, none, none, false⟩

/-! The events. -/

def webhookSource : String := "gateway:webhook"

def rejectedType : String := "a2a.push.rejected"

def Callback.eventType (callback : Callback) : String := s!"a2a.push.{callback.details.eventType}"

def webhookMetadata (path payloadKind protocolVersion : String)
    (contentType remoteAddr : Option String) (authValidated validPayload : Bool) :
    Except MissiveError Metadata := do
  let metadata ← insertStr .new "webhook.path" path
  let metadata ← insertStr metadata "webhook.payload_kind" payloadKind
  let metadata ← metadata.insert "webhook.auth_validated" (.bool authValidated)
  let metadata ← metadata.insert "webhook.valid_payload" (.bool validPayload)
  let metadata ← insertStr metadata "a2a.protocol_version" protocolVersion
  let metadata ← insertOptional metadata "webhook.content_type" contentType
  insertOptional metadata "webhook.remote_addr" remoteAddr

def eventIdText (kind messageId : String) : String := s!"evt/webhook/{kind}/{messageId}"

def newEventId (kind : String) : Action EventId := do
  let messageId ← newMessageId
  Effect.lift (Id.new .eventId (eventIdText kind messageId))

-- The event that `persist_accepted_event` appends.
def acceptedInsert (callback : Callback) : Action EventInsert := do
  let eventId ← newEventId "push"
  let metadata ← Effect.lift (webhookMetadata config.path callback.details.kind
    callback.protocolVersion callback.contentType callback.remoteAddr callback.authValidated true)
  pure { EventInsert.new eventId webhookSource callback.eventType
      (webhookRedactJson callback.rawJson) with
    contextId := callback.details.contextId
    taskId := callback.details.taskId
    metadata }

def Rejection.payloadJson (rejection : Rejection) : Json :=
  .object [("error", .string rejection.message), ("payload", .ofOption id rejection.payload),
    ("reason", .string rejection.reason), ("status", .nat rejection.status)]

-- The event that `persist_rejected_event` appends.
def rejectedInsert (rejection : Rejection) : Action EventInsert := do
  let eventId ← newEventId "push-rejected"
  let metadata ← Effect.lift (webhookMetadata config.path "rejected" config.protocolVersion
    rejection.contentType rejection.remoteAddr rejection.authValidated false)
  pure { EventInsert.new eventId webhookSource rejectedType rejection.payloadJson with metadata }

/-! What the caller of the receiver and the sender of the callback are told. -/

structure WebhookAccepted where
  profile : String
  eventSequence : Nat
  eventId : String
  eventType : String
  payloadKind : String
  taskId : Option String
  contextId : Option String
  state : Option String
  artifactId : Option String
  remoteAddr : Option String
  message : String

structure WebhookRejected where
  profile : String
  status : Nat
  reason : String
  eventSequence : Option Nat
  eventId : Option String
  remoteAddr : Option String
  message : String

inductive WebhookRuntimeEvent where
  | accepted (accepted : WebhookAccepted)
  | rejected (rejected : WebhookRejected)

def acceptedEvent (callback : Callback) (record : EventRecord) : WebhookAccepted where
  profile := config.profile
  eventSequence := record.sequence
  eventId := record.eventId.text
  eventType := record.eventType
  payloadKind := callback.details.kind
  taskId := callback.details.taskId.map Id.text
  contextId := callback.details.contextId.map Id.text
  state := callback.details.state
  artifactId := callback.details.artifactId
  remoteAddr := callback.remoteAddr
  message :=
    match callback.details.taskId with
    | some taskId =>
        s!"Accepted A2A push {callback.details.eventType} callback for task {taskId.text}"
    | none => s!"Accepted A2A push {callback.details.eventType} callback"

def rejectedEvent (rejection : Rejection) (record : EventRecord) : WebhookRejected where
  profile := config.profile
  status := rejection.status
  reason := rejection.reason
  eventSequence := some record.sequence
  eventId := some record.eventId.text
  remoteAddr := rejection.remoteAddr
  message := s!"Rejected webhook callback: {rejection.message}"

inductive Body where
  | accepted (ok : Bool) (eventType eventId : String) (sequence : Nat)
  | error (ok : Bool) (error reason : String)

structure Response where
  status : Nat
  body : Body

def acceptedResponse (accepted : WebhookAccepted) : Response :=
  ⟨202, .accepted true accepted.eventType accepted.eventId accepted.eventSequence⟩

def rejectedResponse (rejection : Rejection) : Response :=
  ⟨rejection.status, .error false rejection.message rejection.reason⟩

def internalErrorResponse (error : MissiveError) : Response :=
  ⟨500, .error false error.detail "persistence_failed"⟩

def Decision.insert : Decision → Action EventInsert
  | .accept callback => acceptedInsert config callback
  | .reject rejection => rejectedInsert config rejection

def Decision.told (record : EventRecord) : Decision → WebhookRuntimeEvent
  | .accept callback => .accepted (acceptedEvent config callback record)
  | .reject rejection => .rejected (rejectedEvent config rejection record)

def Decision.response (record : EventRecord) : Decision → Response
  | .accept callback => acceptedResponse (acceptedEvent config callback record)
  | .reject rejection => rejectedResponse rejection

/-! Handlers. -/

/-- Where a handler stands between two of its turns. -/
inductive Phase where
  | received
  /-- It awaits the row of its decision. -/
  | awaiting (event : EventInsert) (decision : Decision)
  /-- The row is written and the counter has not moved. -/
  | written (record : EventRecord) (decision : Decision)
  | counted (record : EventRecord) (decision : Decision)
  /-- The callback is counted and `max_events` has been looked at. -/
  | limited (record : EventRecord) (callback : Callback)
  | ended (response : Response)

-- For the account, a handler remembers its draw, the row it wrote and what it sent.
structure Handler where
  request : Request
  phase : Phase
  drew : Option Nat
  wrote : Option EventRecord
  sent : Option WebhookRuntimeEvent

def Phase.awaits : Phase → Bool
  | .awaiting _ _ => true
  | _ => false

def Phase.hasEnded : Phase → Bool
  | .ended _ => true
  | _ => false

-- A callback is counted and `max_events` has not been looked at.
def Phase.isDue : Phase → Bool
  | .counted _ (.accept _) => true
  | _ => false

-- How many turns are left.
def Phase.rank : Phase → Nat
  | .received => 5
  | .awaiting _ _ => 4
  | .written _ _ => 3
  | .counted _ _ => 2
  | .limited _ _ => 1
  | .ended _ => 0

def Handler.arrived (request : Request) : Handler := ⟨request, .received, none, none, none⟩

-- The draw whose event is still to be appended.
def Handler.pending (handler : Handler) : Option Nat :=
  match handler.phase with
  | .awaiting _ _ => handler.drew
  | _ => none

-- The row for which a counter has moved.
def Handler.acceptedRow (handler : Handler) : Option EventRecord :=
  match handler.phase with
  | .counted record (.accept _) | .limited record _ => some record
  | .ended response => if response.status = 202 then handler.wrote else none
  | _ => none

def Handler.rejectedRow (handler : Handler) : Option EventRecord :=
  match handler.phase with
  | .counted record (.reject _) => some record
  | .ended response => if response.status = 202 then none else handler.wrote
  | _ => none

/-- What the handlers share. The failures are those of the lock, the database file and the runtime,
which come from outside. -/
structure Receiver where
  world : World
  accepted : Nat
  rejected : Nat
  shutdown : ShutdownController
  closing : Bool
  runtime : List WebhookRuntimeEvent
  failures : List MissiveError
  handlers : List Handler

def Receiver.put (receiver : Receiver) (index : Nat) (handler : Handler) : Receiver :=
  { receiver with handlers := receiver.handlers.set index handler }

@[simp] theorem Receiver.put_handlers (receiver : Receiver) (index : Nat) (handler : Handler) :
    (receiver.put index handler).handlers = receiver.handlers.set index handler := rfl

@[simp] theorem Receiver.put_world (receiver : Receiver) (index : Nat) (handler : Handler) :
    (receiver.put index handler).world = receiver.world := rfl

def Receiver.perform {Result : Type} (receiver : Receiver) (index : Nat) (handler : Handler)
    (action : Action Result) (next : Result → Handler) : Receiver :=
  match action receiver.world with
  | (.ok result, world) => { receiver with world }.put index (next result)
  | (.error error, world) =>
      { receiver with world }.put index
        { handler with phase := .ended (internalErrorResponse error) }

def Receiver.decide (receiver : Receiver) (index : Nat) (handler : Handler) : Receiver :=
  let decision := pushCallback crates config handler.request
  let drew := some receiver.world.drawn
  receiver.perform index { handler with drew } (decision.insert config) fun event =>
    { handler with drew, phase := .awaiting event decision }

-- `fetch_add` of the counter that the decision moves.
def Receiver.count (receiver : Receiver) : Decision → Receiver
  | .accept _ => { receiver with accepted := receiver.accepted + 1 }
  | .reject _ => { receiver with rejected := receiver.rejected + 1 }

def maybeShutdownAfterMaxEvents (receiver : Receiver) : Receiver :=
  match config.maxEvents with
  | none => receiver
  | some maxEvents =>
      if receiver.accepted ≥ maxEvents then
        { receiver with shutdown := receiver.shutdown.request .maxEvents }
      else receiver

def Receiver.answer (receiver : Receiver) (index : Nat) (handler : Handler) (record : EventRecord)
    (decision : Decision) : Receiver :=
  let told := decision.told config record
  { receiver with runtime := receiver.runtime ++ [told] }.put index
    { handler with phase := .ended (decision.response config record), sent := some told }

/-- One turn of a handler. -/
def Receiver.turn (receiver : Receiver) (index : Nat) (handler : Handler) : Receiver :=
  match handler.phase with
  | .received => receiver.decide crates config index handler
  | .awaiting event decision =>
      receiver.perform index handler (appendWebhookEvent event) fun record =>
        { handler with phase := .written record decision, wrote := some record }
  | .written record decision =>
      (receiver.count decision).put index { handler with phase := .counted record decision }
  | .counted record (.accept callback) =>
      (maybeShutdownAfterMaxEvents config receiver).put index
        { handler with phase := .limited record callback }
  | .counted record (.reject rejection) =>
      receiver.answer config index handler record (.reject rejection)
  | .limited record callback => receiver.answer config index handler record (.accept callback)
  | .ended _ => receiver

def Receiver.lose (receiver : Receiver) (index : Nat) (handler : Handler) (error : MissiveError) :
    Receiver :=
  { receiver with failures := receiver.failures ++ [error] }.put index
    { handler with phase := .ended (internalErrorResponse error) }

-- The branches of the `select!` in `shutdown_signal`, each of which ends it.
def Receiver.close (receiver : Receiver) : Receiver := { receiver with closing := true }

def Receiver.stop (receiver : Receiver) (reason : ShutdownReason) : Receiver :=
  { receiver with closing := true, shutdown := receiver.shutdown.request reason }

/-! The receiver as a whole. -/

structure HealthResponse where
  ok : Bool
  status : String
  component : String
  profile : String
  path : String
  accepted : Nat
  rejected : Nat

def health (receiver : Receiver) : HealthResponse :=
  ⟨true, "ok", "webhook", config.profile, config.path, receiver.accepted, receiver.rejected⟩

-- What `run_webhook_receiver` returns, less the addresses.
structure WebhookReceiverSummary where
  profile : String
  accepted : Nat
  rejected : Nat
  shutdownReason : String
  message : String

def Receiver.summary (receiver : Receiver) : WebhookReceiverSummary where
  profile := config.profile
  accepted := receiver.accepted
  rejected := receiver.rejected
  shutdownReason := receiver.shutdown.reason.asStr
  message := s!"Webhook receiver stopped after accepting {receiver.accepted} callback(s) and " ++
    s!"rejecting {receiver.rejected} callback(s)"

end Handling

/-! Events of the receiver. -/

structure Unlinked (event : EventInsert) : Prop where
  checked : event.check = .ok ()
  agentAlias : event.agentAlias = none
  groupName : event.groupName = none
  gatewayJobId : event.gatewayJobId = none
  adapterBindingId : event.adapterBindingId = none

/-- An event has been appended: its context is there, and a task that is not known is left out. -/
structure Appended (event : EventInsert) (before : World) (record : EventRecord) (after : World) :
    Prop where
  journal : after.store.events.rows = before.store.events.rows ++ [record]
  eventId : record.eventId = event.eventId
  source : record.source = event.source
  eventType : record.eventType = event.eventType
  payload : record.payloadJson = event.payloadJson
  contextId : record.contextId = event.contextId
  taskId : record.taskId = event.taskId ∨ record.taskId = none
  stream : after.messageIds = before.messageIds
  drawn : before.drawn ≤ after.drawn

theorem getContext_run (contextId : ContextId) (world : World) :
    getContext contextId world = (.ok (world.store.contexts.find? contextId), world) := rfl

theorem getTask_run (taskId : TaskId) (world : World) :
    getTask taskId world = (.ok (world.store.tasks.find? taskId), world) := rfl

/-- A context has been made sure of. -/
structure Housed (contextId : Option ContextId) (before after : World) : Prop where
  known : after.store.hasContext contextId = true
  events : after.store.events = before.store.events
  stream : after.messageIds = before.messageIds
  drawn : before.drawn ≤ after.drawn

theorem upsertContext_housed (contextId : ContextId) (world : World) :
    ∃ row after, upsertContext (ContextUpsert.new contextId) world = (.ok row, after) ∧
      Housed (some contextId) world after :=
  ⟨_, _, upsertRow_accepted contextsTable (.ok ()) _ _ _ contextId _
      (ContextUpsert.new contextId).toRecord (fun _ _ => rfl) rfl world rfl,
    Option.isSome_iff_exists.mpr ⟨_, KeyedTable.Table.find?_put_self _ _⟩, rfl, rfl, Nat.le_succ _⟩

theorem ensureEventContext_housed (event : EventInsert) (world : World) :
    ∃ after, ensureEventContext event world = (.ok (), after) ∧ Housed event.contextId world after := by
  unfold ensureEventContext
  cases given : event.contextId with
  | none => exact ⟨world, rfl, rfl, rfl, rfl, le_rfl⟩
  | some contextId =>
      dsimp only
      rw [Effect.bind_ok _ _ _ _ _ (getContext_run contextId world)]
      cases known : world.store.contexts.find? contextId with
      | some row => exact ⟨world, rfl, by simp [Store.hasContext, known], rfl, rfl, le_rfl⟩
      | none =>
          obtain ⟨row, after, made, house⟩ := upsertContext_housed contextId world
          exact ⟨after, Effect.bind_ok _ _ _ _ _ made, house⟩

theorem withKnownTask_links (event : EventInsert) (world : World) :
    ∃ taskId, (taskId = event.taskId ∨ taskId = none) ∧ world.store.hasTask taskId = true ∧
      withKnownTask event world = (.ok { event with taskId }, world) := by
  unfold withKnownTask
  cases given : event.taskId with
  | none =>
      have same : { event with taskId := none } = event := by rw [← given]
      exact ⟨none, Or.inr rfl, rfl, by rw [same]; rfl⟩
  | some taskId =>
      dsimp only
      rw [Effect.bind_ok _ _ _ _ _ (getTask_run taskId world)]
      cases known : world.store.tasks.find? taskId with
      | some row =>
          have same : { event with taskId := some taskId } = event := by rw [← given]
          refine ⟨some taskId, Or.inl rfl, ?_, by rw [same]; rfl⟩
          simp [Store.hasTask, known]
      | none => exact ⟨none, Or.inr rfl, rfl, rfl⟩

theorem appendEvent_accepted {event : EventInsert} {world : World} (checked : event.check = .ok ())
    (accepted : event.refused world.store = none) :
    appendEvent event world =
      (.ok (event.toRecord (world.clock world.drawn).toMillis world.store.nextSequence),
        world.later.withStore
          (withEvent world.store event (world.clock world.drawn).toMillis)) := by
  have drew : sqlNow world = (.ok (world.clock world.drawn).toMillis, world.later) := rfl
  have opened : appendEvent event world = _ :=
    (Effect.bind_ok _ _ _ _ _ (by rw [checked]; rfl)).trans (Effect.bind_ok _ _ _ _ _ drew)
  rcases appendEvent_cases event world with ⟨error, after, failed, _⟩ | ⟨_, appended⟩
  · rw [opened] at failed
    simp [execute, accepted, Effect.bind_run, readBack, readStore,
      findEvent_withEvent world.store event _ accepted] at failed
  · exact appended

/-- An event of the receiver whose id is free is appended, whatever it refers to. -/
theorem appendWebhookEvent_appended {event : EventInsert} {world : World}
    (unlinked : Unlinked event)
    (free : ∀ row ∈ world.store.events.rows, row.eventId ≠ event.eventId) :
    ∃ record after, appendWebhookEvent event world = (.ok record, after) ∧
      Appended event world record after := by
  obtain ⟨housed, made, house⟩ := ensureEventContext_housed event world
  obtain ⟨taskId, link, known, linked⟩ := withKnownTask_links event housed
  have normalized : normalizeEventLinks event world = (.ok { event with taskId }, housed) := by
    rw [normalizeEventLinks, Effect.bind_ok _ _ _ _ _ made, linked]
  have accepted : EventInsert.refused { event with taskId } housed.store = none := by
    have absent : (housed.store.events.rows.any fun row => row.eventId = event.eventId) = false := by
      rw [house.events, List.any_eq_false]
      exact fun row member => by simpa using free row member
    simp only [EventInsert.refused, absent, unlinked.agentAlias, unlinked.groupName,
      unlinked.gatewayJobId, unlinked.adapterBindingId, house.known, known]
    rfl
  have appended := @appendEvent_accepted { event with taskId } housed unlinked.checked accepted
  rw [appendWebhookEvent, Effect.bind_ok _ _ _ _ _ normalized]
  refine ⟨_, _, appended, ?_, rfl, rfl, rfl, rfl, rfl, link, house.stream, ?_⟩
  · exact (withEvent_rows _ _ _).trans (congrArg (fun table => table.rows ++ _) house.events)
  · exact Nat.le_succ_of_le house.drawn

def Decision.eventType : Decision → String
  | .accept callback => callback.eventType
  | .reject _ => rejectedType

def Decision.payloadJson : Decision → Json
  | .accept callback => webhookRedactJson callback.rawJson
  | .reject rejection => rejection.payloadJson

def Decision.contextId : Decision → Option ContextId
  | .accept callback => callback.details.contextId
  | .reject _ => none

def Decision.taskId : Decision → Option TaskId
  | .accept callback => callback.details.taskId
  | .reject _ => none

/-- The event that a decision is journaled as. -/
structure Made (decision : Decision) (messageId : String) (event : EventInsert) : Prop where
  unlinked : Unlinked event
  source : event.source = webhookSource
  eventId : ∃ start, event.eventId.text = start ++ messageId
  eventType : event.eventType = decision.eventType
  payload : event.payloadJson = decision.payloadJson
  contextId : event.contextId = decision.contextId
  taskId : event.taskId = decision.taskId

def payloadTypes : List String := ["task", "message", "status_update", "artifact_update"]

def Decision.Sorted : Decision → Prop
  | .accept callback => callback.details.eventType ∈ payloadTypes
  | .reject rejection => rejection.status = 400 ∨ rejection.status = 401

theorem payloadTypes_plain : ∀ eventType ∈ payloadTypes,
    s!"a2a.push.{eventType}" ≠ rejectedType ∧ (!(s!"a2a.push.{eventType}").isEmpty &&
      (s!"a2a.push.{eventType}").utf8ByteSize ≤ 128) = true := by decide

theorem details_sorted {response : StreamResponse} {details : PayloadDetails}
    (read : PayloadDetails.fromStreamResponse response = .ok details) :
    details.eventType ∈ payloadTypes := by
  cases response with
  | task task =>
      obtain ⟨ids, _, made⟩ := except_bind_returned read
      cases made
      simp [payloadTypes]
  | message message =>
      obtain ⟨taskId, _, read⟩ := except_bind_returned read
      obtain ⟨contextId, _, made⟩ := except_bind_returned read
      cases made
      simp [payloadTypes]
  | statusUpdate update =>
      obtain ⟨ids, _, made⟩ := except_bind_returned read
      cases made
      simp [payloadTypes]
  | artifactUpdate update =>
      obtain ⟨ids, _, made⟩ := except_bind_returned read
      cases made
      simp [payloadTypes]

section Decisions

variable (crates : Crates) (config : WebhookReceiverConfig)

theorem decision_sorted (request : Request) : (pushCallback crates config request).Sorted := by
  unfold pushCallback
  cases config.auth.validateHeaders crates.toCrates request.headers with
  | error reason => exact Or.inr rfl
  | ok authValidated =>
      dsimp only [handleAuthorizedCallback]
      cases crates.fromSlice request.body with
      | error error => exact Or.inl rfl
      | ok rawJson =>
          dsimp only
          cases crates.streamResponse rawJson with
          | error error => exact Or.inl rfl
          | ok response =>
              dsimp only
              cases read : PayloadDetails.fromStreamResponse response with
              | error error => exact Or.inl rfl
              | ok details => exact details_sorted read

theorem eventType_apart {callback : Callback} (sorted : (Decision.accept callback).Sorted) :
    callback.eventType ≠ rejectedType := (payloadTypes_plain _ sorted).1

theorem eventType_short {decision : Decision} (sorted : decision.Sorted) :
    (!decision.eventType.isEmpty && decision.eventType.utf8ByteSize ≤ 128) = true := by
  cases decision with
  | accept callback => exact (payloadTypes_plain _ sorted).2
  | reject rejection => rfl

theorem webhookMetadata_made (path payloadKind protocolVersion : String)
    (contentType remoteAddr : Option String) (authValidated validPayload : Bool) :
    ∃ metadata, webhookMetadata path payloadKind protocolVersion contentType remoteAddr
      authValidated validPayload = .ok metadata := by
  apply except_bind_returns ⟨_, HttpInbound.inserted .new "webhook.path" _ (by decide)⟩
  intro metadata
  apply except_bind_returns ⟨_, HttpInbound.inserted metadata "webhook.payload_kind" _ (by decide)⟩
  intro metadata
  apply except_bind_returns ⟨_, metadata.insert_valid "webhook.auth_validated" _ (by decide)⟩
  intro metadata
  apply except_bind_returns ⟨_, metadata.insert_valid "webhook.valid_payload" _ (by decide)⟩
  intro metadata
  apply except_bind_returns ⟨_, HttpInbound.inserted metadata "a2a.protocol_version" _ (by decide)⟩
  intro metadata
  apply except_bind_returns
    (HttpControl.optional_inserted metadata "webhook.content_type" _ (by decide))
  intro metadata
  exact HttpControl.optional_inserted metadata "webhook.remote_addr" _ (by decide)

theorem source_short : (!webhookSource.isEmpty && webhookSource.utf8ByteSize ≤ 128) = true := by
  decide

theorem push_plain : Totality.plainStart ("evt/webhook/" ++ "push" ++ "/") = true := by decide

theorem pushRejected_plain : Totality.plainStart ("evt/webhook/" ++ "push-rejected" ++ "/") = true := by
  decide

theorem newEventId_made {kind : String} (plain : Totality.plainStart s!"evt/webhook/{kind}/" = true)
    {world : World} (generated : Totality.GeneratedId (world.messageIds world.drawn)) :
    ∃ eventId, newEventId kind world = (.ok eventId, world.later) ∧
      eventId.text = s!"evt/webhook/{kind}/" ++ world.messageIds world.drawn := by
  have passes : IdKind.eventId.reason (eventIdText kind (world.messageIds world.drawn)) = none :=
    Totality.opaque_appended plain generated
  have drew : newMessageId world = (.ok (world.messageIds world.drawn), world.later) := rfl
  refine ⟨⟨eventIdText kind (world.messageIds world.drawn), passes⟩, ?_, rfl⟩
  rw [newEventId, Effect.bind_ok _ _ _ _ _ drew, Missive.Totality.Id.new_valid passes]
  rfl

/-- With an id to draw, a decision has its event. -/
theorem insert_made {decision : Decision} (sorted : decision.Sorted) {world : World}
    (generated : Totality.GeneratedId (world.messageIds world.drawn)) :
    ∃ event, decision.insert config world = (.ok event, world.later) ∧
      Made decision (world.messageIds world.drawn) event := by
  have short := eventType_short sorted
  cases decision with
  | accept callback =>
      obtain ⟨eventId, drew, named⟩ := newEventId_made push_plain generated
      obtain ⟨metadata, attached⟩ := webhookMetadata_made config.path callback.details.kind
        callback.protocolVersion callback.contentType callback.remoteAddr callback.authValidated true
      have kept : (Effect.lift (webhookMetadata config.path callback.details.kind
          callback.protocolVersion callback.contentType callback.remoteAddr callback.authValidated
          true) : Action Metadata) world.later = (.ok metadata, world.later) := by
        rw [attached]
        rfl
      have ran : (Decision.accept callback).insert config world = _ :=
        (Effect.bind_ok _ _ _ _ _ drew).trans (Effect.bind_ok _ _ _ _ _ kept)
      exact ⟨_, ran, ⟨Totality.event_checked source_short short, rfl, rfl, rfl, rfl⟩, rfl,
        ⟨_, named⟩, rfl, rfl, rfl, rfl⟩
  | reject rejection =>
      obtain ⟨eventId, drew, named⟩ := newEventId_made pushRejected_plain generated
      obtain ⟨metadata, attached⟩ := webhookMetadata_made config.path "rejected"
        config.protocolVersion rejection.contentType rejection.remoteAddr rejection.authValidated
        false
      have kept : (Effect.lift (webhookMetadata config.path "rejected" config.protocolVersion
          rejection.contentType rejection.remoteAddr rejection.authValidated false) :
          Action Metadata) world.later = (.ok metadata, world.later) := by
        rw [attached]
        rfl
      have ran : (Decision.reject rejection).insert config world = _ :=
        (Effect.bind_ok _ _ _ _ _ drew).trans (Effect.bind_ok _ _ _ _ _ kept)
      exact ⟨_, ran, ⟨Totality.event_checked source_short short, rfl, rfl, rfl, rfl⟩, rfl,
        ⟨_, named⟩, rfl, rfl, rfl, rfl⟩

end Decisions

end Missive.WebhookReceiver
