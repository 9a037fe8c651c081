import Mathlib.Algebra.GroupWithZero.Nat
import Missive.InboundFrames

/-! The gateway's HTTP adapter. Every request runs in a handler of its own; the handlers take turns
and share the rate limiter, the two counters, the event journal and the event bus. A turn ends where
the source awaits the journal and where it touches a counter or the bus. A handler runs to its end,
also when the client no longer listens. -/
namespace Missive.HttpControl

open JsonValue JsonRedaction Missive.Core Schema Effects Repository BackgroundJobs StdioCommands ControlFrames
  HttpInbound InboundFrames

/-- What the handler takes from the crates `http` and `serde_json`. -/
structure Crates where
  /-- `HeaderName::from_bytes`, as the name under which `HeaderMap` keeps it. -/
  headerName : String → Option String
  /-- `HeaderValue::to_str`. -/
  toStr : List UInt8 → Option String
  /-- `serde_json::from_slice::<Value>`, or the text of its error. -/
  fromSlice : List UInt8 → Except String Json

structure Request where
  remoteAddr : String
  headers : List (String × List UInt8)
  body : List UInt8

inductive HttpInboundAuth where
  | disabled
  | header (name token : String) (scheme : Option String)

structure HttpInboundAdapterConfig where
  path : String
  auth : HttpInboundAuth
  rateLimitPerMinute : Nat

/-! The rate limiter, on a clock of nanoseconds. -/

structure HttpRateWindow where
  startedAt : Nat
  count : Nat

/-- `HttpRateLimiter::try_acquire`. The clock is read once for the age of the window and again
when the window starts anew. -/
def HttpRateWindow.tryAcquire (window : HttpRateWindow) (limitPerMinute now restart : Nat) :
    Bool × HttpRateWindow :=
  let current := if now - window.startedAt ≥ 60 * 1000000000 then ⟨restart, 0⟩ else window
  if current.count ≥ limitPerMinute then (false, current)
  else (true, { current with count := current.count + 1 })

/-! Authentication. -/

def expectedAuthHeaderValue (scheme : Option String) (token : String) : String :=
  match scheme with
  | some scheme => s!"{scheme} {token}"
  | none => token

def constantTimeEq (left right : List UInt8) : Bool :=
  (List.range (max left.length right.length)).foldl
    (fun diff index => diff ||| ((left[index]?.getD 0) ^^^ (right[index]?.getD 0)).toNat)
    (left.length ^^^ right.length) == 0

variable (crates : Crates) (config : HttpInboundAdapterConfig)

def HttpInboundAuth.validateHeaders (headers : List (String × List UInt8)) :
    HttpInboundAuth → Except String Bool
  | .disabled => .ok false
  | .header name token scheme =>
      match crates.headerName name with
      | none => .error s!"configured auth header {debug name} is invalid"
      | some headerName =>
          match headers.lookup headerName with
          | none => .error s!"missing required auth header {name}"
          | some actual =>
              match crates.toStr actual with
              | none => .error s!"auth header {name} contains non-UTF-8 data"
              | some actual =>
                  if constantTimeEq actual.toUTF8.toList
                      (expectedAuthHeaderValue scheme token).toUTF8.toList then .ok true
                  else .error s!"auth header {name} did not match the configured token"

/-! What the handler decides before it writes. -/

structure HttpAdapterRejection where
  status : Nat
  reason : String
  message : String
  remoteAddr : Option String
  contentType : Option String
  payload : Option Json
  authValidated : Bool

inductive Decision where
  | reject (rejection : HttpAdapterRejection)
  | accept (frame : HttpInputFrame) (rawJson : Json) (contentType : Option String) (authValidated : Bool)

/-- `http_adapter_control` from the answer of the rate limiter on. -/
def httpAdapterControl (request : Request) (acquired : Bool) : Decision :=
  let remote := some request.remoteAddr
  if acquired then
    let contentType := (request.headers.lookup "content-type").bind crates.toStr
    match config.auth.validateHeaders crates request.headers with
    | .error reason => .reject ⟨401, "auth_failed", reason, remote, contentType, none, false⟩
    | .ok authValidated =>
        match crates.fromSlice request.body with
        | .error error =>
            .reject ⟨400, "invalid_json", s!"request body is not valid JSON: {error}", remote,
              contentType, none, authValidated⟩
        | .ok rawJson =>
            match fromValue httpFormat rawJson with
            | .error error =>
                .reject ⟨400, "invalid_http_adapter_frame", error.detail, remote, contentType,
                  some (daemonRedactJson rawJson), authValidated⟩
            | .ok frame => .accept frame rawJson contentType authValidated
  else .reject ⟨429, "rate_limited", "HTTP adapter rate limit exceeded", remote, none, none, false⟩

structure HttpAdapterMetadataInput where
  path : String
  requestId : Option String
  command : Option String
  contentType : Option String
  remoteAddr : Option String
  authValidated : Bool
  validPayload : Bool
  rateLimited : Bool

def insertOptional (metadata : Metadata) (name : String) : Option String → Except MissiveError Metadata
  | none => .ok metadata
  | some value => insertStr metadata name value

def httpAdapterMetadata (input : HttpAdapterMetadataInput) : Except MissiveError Metadata := do
  let metadata ← insertStr .new "adapter.kind" "http"
  let metadata ← insertStr metadata "http_adapter.path" input.path
  let metadata ← metadata.insert "http_adapter.auth_validated" (.bool input.authValidated)
  let metadata ← metadata.insert "http_adapter.valid_payload" (.bool input.validPayload)
  let metadata ← metadata.insert "http_adapter.rate_limited" (.bool input.rateLimited)
  let metadata ← insertOptional metadata "http_adapter.request_id" input.requestId
  let metadata ← insertOptional metadata "http_adapter.command" input.command
  let metadata ← insertOptional metadata "http_adapter.content_type" input.contentType
  insertOptional metadata "http_adapter.remote_addr" input.remoteAddr

/-! Responses. -/

inductive Body where
  | accepted (ok : Bool) (id messageId eventId : String) (sequence : Nat) (eventType : String)
  | error (ok : Bool) (error reason : String)

structure Response where
  status : Nat
  body : Body

def internalErrorResponse (error : MissiveError) : Response :=
  ⟨500, .error false error.detail "persistence_failed"⟩

def rejectedResponse (rejection : HttpAdapterRejection) : Response :=
  ⟨rejection.status, .error false rejection.message rejection.reason⟩

def acceptedResponse (frame : HttpInputFrame) (message : AdapterInboundMessage) (record : EventRecord) :
    Response :=
  ⟨202, .accepted true frame.id message.messageId.text record.eventId.text record.sequence record.eventType⟩

/-! The journal. -/

def acceptedType : String := "missive.adapter.http.accepted"

def rejectedType : String := "missive.adapter.http.rejected"

structure Entry where
  payload : Json
  metadata : Metadata

def newGatewayEventId (eventType : String) : Action EventId := do
  let suffix := String.ofList ((afterLastDot eventType).toList.map fun c => if c = '_' then '-' else c)
  let messageId ← newMessageId
  Effect.lift (Id.new .eventId s!"evt/gateway/{suffix}/{messageId}")

def persistHttpAdapterEvent (eventType : String) (entry : Entry) : Action EventRecord := do
  let eventId ← newGatewayEventId eventType
  appendEvent { EventInsert.new eventId "adapter:http" eventType entry.payload with metadata := entry.metadata }

/-! Handlers. -/

inductive AdapterEvent where
  | inboundMessage (message : AdapterInboundMessage)

/-- Where a handler stands between two of its turns. -/
inductive Phase where
  | received
  /-- `accept_http_adapter_request` awaits its row. -/
  | accepting (entry : Entry) (frame : HttpInputFrame) (message : AdapterInboundMessage)
  /-- Its row is written and the accepted counter has not moved. -/
  | accepted (record : EventRecord) (frame : HttpInputFrame) (message : AdapterInboundMessage)
  | emitting (record : EventRecord) (frame : HttpInputFrame) (message : AdapterInboundMessage)
  /-- `reject_http_adapter_request` awaits its row. -/
  | rejecting (entry : Entry) (rejection : HttpAdapterRejection)
  | rejected (rejection : HttpAdapterRejection)
  | ended (response : Response)

def rejectHttpAdapterRequest (rejection : HttpAdapterRejection) : Phase :=
  let payload : Json := .object [("error", .string rejection.message),
    ("payload", .ofOption id rejection.payload), ("reason", .string rejection.reason),
    ("status", .nat rejection.status)]
  match httpAdapterMetadata ⟨config.path, none, some "rejected", rejection.contentType, rejection.remoteAddr,
      rejection.authValidated, false, rejection.reason == "rate_limited"⟩ with
  | .error error => .ended (internalErrorResponse error)
  | .ok metadata => .rejecting ⟨payload, metadata⟩ rejection

def acceptHttpAdapterRequest (frame : HttpInputFrame) (rawJson : Json)
    (contentType remoteAddr : Option String) (authValidated : Bool) : Phase :=
  match inboundMessage frame with
  | .error error => .ended (internalErrorResponse error)
  | .ok message =>
      match httpAdapterMetadata ⟨config.path, some frame.id, some frame.command.asStr, contentType, remoteAddr,
          authValidated, true, false⟩ with
      | .error error => .ended (internalErrorResponse error)
      | .ok metadata => .accepting ⟨daemonRedactJson rawJson, metadata⟩ frame message

def begin (request : Request) (acquired : Bool) : Phase :=
  match httpAdapterControl crates config request acquired with
  | .reject rejection => rejectHttpAdapterRequest config rejection
  | .accept frame rawJson contentType authValidated =>
      acceptHttpAdapterRequest config frame rawJson contentType (some request.remoteAddr) authValidated

structure Handler where
  request : Request
  phase : Phase

/-- The adapter's shared state, the handlers in the order of their requests, and, for the account,
which of them wrote a row and put an event. A closed bus is `none`. -/
structure System where
  world : World
  window : HttpRateWindow
  accepted : Nat
  rejected : Nat
  bus : Option (List AdapterEvent)
  handlers : List Handler
  rows : List (Nat × EventRecord)
  sent : List (Nat × AdapterEvent)

def System.setPhase (system : System) (index : Nat) (handler : Handler) (phase : Phase) : System :=
  { system with handlers := system.handlers.set index ⟨handler.request, phase⟩ }

/-- The turn that ends with the row of a handler. -/
def System.persist (system : System) (index : Nat) (handler : Handler) (eventType : String) (entry : Entry)
    (next : EventRecord → Phase) : System :=
  match persistHttpAdapterEvent eventType entry system.world with
  | (.error error, world) =>
      { system with world }.setPhase index handler (.ended (internalErrorResponse error))
  | (.ok record, world) =>
      { system with world, rows := system.rows ++ [(index, record)] }.setPhase index handler (next record)

def busClosed : MissiveError :=
  (MissiveError.orchestration "gateway adapter event bus is closed").withHelp
    "Restart missive gateway run before sending HTTP adapter requests."

def System.emit (system : System) (index : Nat) (handler : Handler) (record : EventRecord)
    (frame : HttpInputFrame) (message : AdapterInboundMessage) : System :=
  match system.bus with
  | none => system.setPhase index handler (.ended (internalErrorResponse busClosed))
  | some events =>
      { system with
        bus := some (events ++ [AdapterEvent.inboundMessage message])
        sent := system.sent ++ [(index, AdapterEvent.inboundMessage message)] }.setPhase index handler
          (.ended (acceptedResponse frame message record))

/-- One turn of a handler, at the given readings of the clock. -/
def System.turn (system : System) (index now restart : Nat) (handler : Handler) : System :=
  match handler.phase with
  | .received =>
      let admitted := system.window.tryAcquire config.rateLimitPerMinute now restart
      { system with window := admitted.2 }.setPhase index handler
        (begin crates config handler.request admitted.1)
  | .accepting entry frame message =>
      system.persist index handler acceptedType entry fun record => .accepted record frame message
  | .accepted record frame message =>
      { system with accepted := system.accepted + 1 }.setPhase index handler (.emitting record frame message)
  | .emitting record frame message => system.emit index handler record frame message
  | .rejecting entry rejection =>
      system.persist index handler rejectedType entry fun _ => .rejected rejection
  | .rejected rejection =>
      { system with rejected := system.rejected + 1 }.setPhase index handler
        (.ended (rejectedResponse rejection))
  | .ended _ => system

inductive Act where
  | arrive (request : Request)
  | turn (index now restart : Nat)

def System.step (system : System) : Act → System
  | .arrive request => { system with handlers := system.handlers ++ [⟨request, .received⟩] }
  | .turn index now restart =>
      match system.handlers[index]? with
      | none => system
      | some handler => system.turn crates config index now restart handler

def System.run (system : System) (acts : List Act) : System := acts.foldl (System.step crates config) system

/-! The account. -/

-- What one request contributed.
def own {Entry : Type} (trail : List (Nat × Entry)) (index : Nat) : List Entry :=
  (trail.filter fun item => item.1 = index).map Prod.snd

def count (eventType : String) (rows : List EventRecord) : Nat :=
  rows.countP fun row => row.eventType = eventType

/-- One row, of one of the two types; `202`, the accepted type and one event on the bus go together. -/
def Answered (rows : List EventRecord) (sent : List AdapterEvent) (response : Response) : Prop :=
  ∃ row, rows = [row] ∧ (row.eventType = acceptedType ∨ row.eventType = rejectedType) ∧
    (response.status = 202 ↔ row.eventType = acceptedType) ∧
    (row.eventType = acceptedType ↔ ∃ message, sent = [.inboundMessage message])

def Phase.hasEnded : Phase → Bool
  | .ended _ => true
  | _ => false

def turnsOf (index : Nat) (clocks : List (Nat × Nat)) : List Act :=
  clocks.map fun clock => .turn index clock.1 clock.2

structure Accounted (start system : System) : Prop where
  journal : system.world.store.events.rows = start.world.store.events.rows ++ system.rows.map Prod.snd
  bus : system.bus = some (system.sent.map Prod.snd)
  answered : ∀ index handler response, system.handlers[index]? = some handler →
    handler.phase = .ended response → Answered (own system.rows index) (own system.sent index) response
  counted : (∀ handler ∈ system.handlers, handler.phase.hasEnded = true) →
    system.accepted = count acceptedType (system.rows.map Prod.snd) ∧
      system.rejected = count rejectedType (system.rows.map Prod.snd)
  ends : ∀ index clocks, index < system.handlers.length → clocks.length = 4 →
    ∃ handler, (system.run crates config (turnsOf index clocks)).handlers[index]? = some handler ∧
      handler.phase.hasEnded = true

/-- The adapter as it is mounted, in front of a journal that may have rows. -/
structure Fresh (start : System) : Prop where
  accepted : start.accepted = 0
  rejected : start.rejected = 0
  bus : start.bus = some []
  handlers : start.handlers = []
  rows : start.rows = []
  sent : start.sent = []

def Along (allowed : System → Act → Prop) : System → List Act → Prop
  | _, [] => True
  | system, act :: rest => allowed system act ∧ Along allowed (system.step crates config act) rest

-- The row a handler awaits.
def Phase.awaits : Phase → Option (String × Entry)
  | .accepting entry _ _ => some (acceptedType, entry)
  | .rejecting entry _ => some (rejectedType, entry)
  | _ => none

/-- Event persistence succeeds. -/
def Persists (system : System) : Act → Prop
  | .arrive _ => True
  | .turn index _ _ => ∀ handler eventType entry, system.handlers[index]? = some handler →
      handler.phase.awaits = some (eventType, entry) →
        ∃ record, (persistHttpAdapterEvent eventType entry system.world).1 = .ok record

/-- Unless it fails its authentication, is not JSON or is not a valid frame, the request names its
session by an adapter identifier. -/
def NamesSession (request : Request) : Prop :=
  ∀ authValidated rawJson frame, config.auth.validateHeaders crates request.headers = .ok authValidated →
    crates.fromSlice request.body = .ok rawJson → fromValue httpFormat rawJson = .ok frame →
      adapterIdentifierReason frame.source.resumeName = none

def Named (system : System) : Act → Prop
  | .arrive _ => True
  | .turn index now restart => ∀ handler, system.handlers[index]? = some handler →
      handler.phase = .received →
        (system.window.tryAcquire config.rateLimitPerMinute now restart).1 = true →
          NamesSession crates config handler.request

/-! What a handler decides. -/

theorem optional_inserted (metadata : Metadata) (name : String) (value : Option String)
    (passes : metadataKeyReason name = none) : ∃ after, insertOptional metadata name value = .ok after := by
  cases value with
  | none => exact ⟨metadata, rfl⟩
  | some value => exact ⟨_, inserted metadata name value passes⟩

theorem metadata_made (input : HttpAdapterMetadataInput) :
    ∃ metadata, httpAdapterMetadata input = .ok metadata := by
  apply except_bind_returns ⟨_, inserted .new "adapter.kind" _ (by decide)⟩
  intro metadata
  apply except_bind_returns ⟨_, inserted metadata "http_adapter.path" _ (by decide)⟩
  intro metadata
  apply except_bind_returns ⟨_, metadata.insert_valid "http_adapter.auth_validated" _ (by decide)⟩
  intro metadata
  apply except_bind_returns ⟨_, metadata.insert_valid "http_adapter.valid_payload" _ (by decide)⟩
  intro metadata
  apply except_bind_returns ⟨_, metadata.insert_valid "http_adapter.rate_limited" _ (by decide)⟩
  intro metadata
  apply except_bind_returns (optional_inserted metadata "http_adapter.request_id" _ (by decide))
  intro metadata
  apply except_bind_returns (optional_inserted metadata "http_adapter.command" _ (by decide))
  intro metadata
  apply except_bind_returns (optional_inserted metadata "http_adapter.content_type" _ (by decide))
  intro metadata
  exact optional_inserted metadata "http_adapter.remote_addr" _ (by decide)

theorem reject_awaits (rejection : HttpAdapterRejection) :
    ∃ entry, rejectHttpAdapterRequest config rejection = .rejecting entry rejection := by
  obtain ⟨metadata, made⟩ := metadata_made ⟨config.path, none, some "rejected", rejection.contentType,
    rejection.remoteAddr, rejection.authValidated, false, rejection.reason == "rate_limited"⟩
  rw [rejectHttpAdapterRequest, made]
  exact ⟨_, rfl⟩

/-- What `http_adapter_control` hands on for a request. -/
inductive Handed (request : Request) : Bool → Decision → Prop
  | reject {acquired : Bool} (rejection : HttpAdapterRejection) (refused : rejection.status ≠ 202)
      (named : acquired = true → NamesSession crates config request) :
      Handed request acquired (.reject rejection)
  | accept {frame : HttpInputFrame} {rawJson : Json} {contentType : Option String} {authValidated : Bool}
      (authentic : config.auth.validateHeaders crates request.headers = .ok authValidated)
      (parsed : crates.fromSlice request.body = .ok rawJson) (framed : fromValue httpFormat rawJson = .ok frame) :
      Handed request true (.accept frame rawJson contentType authValidated)

theorem control_handed (request : Request) (acquired : Bool) :
    Handed crates config request acquired (httpAdapterControl crates config request acquired) := by
  cases acquired with
  | false => exact .reject _ (by simp) fun never => by contradiction
  | true =>
      dsimp only [httpAdapterControl]
      rw [if_pos rfl]
      cases authentic : config.auth.validateHeaders crates request.headers with
      | error reason =>
          refine .reject _ (by simp) fun _ _ _ _ passed => ?_
          rw [authentic] at passed
          contradiction
      | ok authValidated =>
          dsimp only
          cases parsed : crates.fromSlice request.body with
          | error error =>
              refine .reject _ (by simp) fun _ _ _ _ _ read => ?_
              rw [parsed] at read
              contradiction
          | ok rawJson =>
              dsimp only
              cases framed : fromValue httpFormat rawJson with
              | error error =>
                  refine .reject _ (by simp) fun _ _ _ _ _ read valid => ?_
                  rw [parsed] at read
                  cases read
                  rw [framed] at valid
                  contradiction
              | ok frame => exact .accept authentic parsed framed

/-- The first turn of a handler awaits a row, unless the message cannot be made. -/
inductive Begun (request : Request) (acquired : Bool) : Phase → Prop
  | rejecting (entry : Entry) (rejection : HttpAdapterRejection) (refused : rejection.status ≠ 202)
      (named : acquired = true → NamesSession crates config request) :
      Begun request acquired (.rejecting entry rejection)
  | accepting (entry : Entry) (frame : HttpInputFrame) (message : AdapterInboundMessage)
      (named : NamesSession crates config request) : Begun request acquired (.accepting entry frame message)
  | lost (error : MissiveError) (passed : acquired = true) (unnamed : ¬ NamesSession crates config request) :
      Begun request acquired (.ended (internalErrorResponse error))

theorem begin_begun (request : Request) (acquired : Bool) :
    Begun crates config request acquired (begin crates config request acquired) := by
  have handed := control_handed crates config request acquired
  unfold begin
  generalize httpAdapterControl crates config request acquired = decision at handed ⊢
  cases handed with
  | reject rejection refused named =>
      obtain ⟨entry, awaits⟩ := reject_awaits config rejection
      simp only [awaits]
      exact .rejecting entry rejection refused named
  | @accept frame rawJson contentType authValidated authentic parsed framed =>
      have mapped := inboundMessage_iff (fromValue_iff.mp framed).2
      dsimp only [acceptHttpAdapterRequest]
      cases made : inboundMessage frame with
      | error error =>
          refine .lost error rfl fun named => ?_
          obtain ⟨message, other⟩ := mapped.mpr (named authValidated rawJson frame authentic parsed framed)
          rw [made] at other
          contradiction
      | ok message =>
          obtain ⟨metadata, attached⟩ := metadata_made ⟨config.path, some frame.id, some frame.command.asStr,
            contentType, some request.remoteAddr, authValidated, true, false⟩
          simp only [attached]
          refine .accepting _ frame message fun _ _ _ _ read valid => ?_
          rw [parsed] at read
          cases read
          rw [framed] at valid
          cases valid
          exact mapped.mp ⟨message, made⟩

/-! What a turn does. -/

theorem persist_returned {eventType : String} {entry : Entry} {record : EventRecord} {world after : World}
    (ran : persistHttpAdapterEvent eventType entry world = (.ok record, after)) :
    record.eventType = eventType ∧ after.store.events.rows = world.store.events.rows ++ [record] := by
  unfold persistHttpAdapterEvent at ran
  obtain ⟨eventId, between, made, appended⟩ := Effect.bind_returned ran
  have unchanged : between.store = world.store := by
    unfold newGatewayEventId at made
    obtain ⟨messageId, drawn, named, lifted⟩ := Effect.bind_returned made
    have drew : drawn.store = world.store := congrArg (fun result => result.2.store) named.symm
    have kept : between = drawn := congrArg Prod.snd lifted.symm
    rw [kept, drew]
  rcases appendEvent_cases { EventInsert.new eventId "adapter:http" eventType entry.payload with
    metadata := entry.metadata } between with ⟨error, left, failed, _⟩ | ⟨_, written⟩
  · rw [failed] at appended
    cases appended
  · rw [written, Prod.mk.injEq, Except.ok.injEq] at appended
    obtain ⟨rfl, rfl⟩ := appended
    refine ⟨rfl, ?_⟩
    rw [← unchanged]
    exact withEvent_rows _ _ _

-- A row that is written and not counted yet.
def Phase.owes : Phase → String → Nat
  | .accepted .., eventType => if eventType = acceptedType then 1 else 0
  | .rejected _, eventType => if eventType = rejectedType then 1 else 0
  | _, _ => 0

/-- Where a handler stands determines what it has written and sent so far. -/
def Standing (phase : Phase) (rows : List EventRecord) (sent : List AdapterEvent) : Prop :=
  match phase with
  | .received | .accepting _ _ _ => rows = [] ∧ sent = []
  | .rejecting _ rejection => rows = [] ∧ sent = [] ∧ rejection.status ≠ 202
  | .accepted record _ _ | .emitting record _ _ =>
      rows = [record] ∧ record.eventType = acceptedType ∧ sent = []
  | .rejected rejection =>
      (∃ row, rows = [row] ∧ row.eventType = rejectedType) ∧ sent = [] ∧ rejection.status ≠ 202
  | .ended response => Answered rows sent response ∨ rows = []

/-- A turn: the handler's next phase, and the rows and events it adds. -/
structure Turned (system after : System) (index : Nat) (handler : Handler) (phase : Phase)
    (wrote : List EventRecord) (put : List AdapterEvent) : Prop where
  handlers : after.handlers = system.handlers.set index ⟨handler.request, phase⟩
  rows : after.rows = system.rows ++ wrote.map fun row => (index, row)
  sent : after.sent = system.sent ++ put.map fun event => (index, event)
  journal : after.world.store.events.rows = system.world.store.events.rows ++ wrote
  bus : after.bus = system.bus.map (· ++ put)
  accepted : after.accepted + phase.owes acceptedType =
    system.accepted + handler.phase.owes acceptedType + count acceptedType wrote
  rejected : after.rejected + phase.owes rejectedType =
    system.rejected + handler.phase.owes rejectedType + count rejectedType wrote
  standing : ∀ held out, Standing handler.phase held out → Standing phase (held ++ wrote) (out ++ put)

theorem types_apart : acceptedType ≠ rejectedType := by decide

-- A turn that neither writes nor sends nor counts.
theorem turned_silent {system after : System} {index : Nat} {handler : Handler} {phase : Phase}
    (handlers : after.handlers = system.handlers.set index ⟨handler.request, phase⟩)
    (rows : after.rows = system.rows) (sent : after.sent = system.sent)
    (world : after.world = system.world) (bus : after.bus = system.bus)
    (accepted : after.accepted + phase.owes acceptedType = system.accepted + handler.phase.owes acceptedType)
    (rejected : after.rejected + phase.owes rejectedType = system.rejected + handler.phase.owes rejectedType)
    (standing : ∀ held out, Standing handler.phase held out → Standing phase held out) :
    Turned system after index handler phase [] [] where
  handlers := handlers
  rows := by rw [rows, List.map_nil, List.append_nil]
  sent := by rw [sent, List.map_nil, List.append_nil]
  journal := by rw [world, List.append_nil]
  bus := by rw [bus]; simp
  accepted := accepted
  rejected := rejected
  standing := by simpa using standing

theorem turned_persist {system : System} {index : Nat} {handler : Handler} {eventType : String} {entry : Entry}
    {next : EventRecord → Phase} {record : EventRecord}
    (ran : (persistHttpAdapterEvent eventType entry system.world).1 = .ok record)
    (accepted : (next record).owes acceptedType = handler.phase.owes acceptedType + count acceptedType [record])
    (rejected : (next record).owes rejectedType = handler.phase.owes rejectedType + count rejectedType [record])
    (standing : ∀ held out, Standing handler.phase held out → Standing (next record) (held ++ [record]) out) :
    Turned system (system.persist index handler eventType entry next) index handler (next record) [record] [] := by
  generalize written : persistHttpAdapterEvent eventType entry system.world = result at ran
  obtain ⟨outcome, world⟩ := result
  cases ran
  unfold System.persist
  simp only [written]
  constructor
  · rfl
  · rfl
  · simp [System.setPhase]
  · exact (persist_returned written).2
  · simp [System.setPhase]
  · rw [accepted, Nat.add_assoc]
    rfl
  · rw [rejected, Nat.add_assoc]
    rfl
  · simpa using standing

theorem begun_owes {request : Request} {acquired : Bool} {next : Phase}
    (begun : Begun crates config request acquired next) (eventType : String) : next.owes eventType = 0 := by
  cases begun <;> rfl

theorem begun_standing {request : Request} {acquired : Bool} {next : Phase}
    (begun : Begun crates config request acquired next) : Standing next [] [] := by
  cases begun with
  | rejecting entry rejection refused named => exact ⟨rfl, rfl, refused⟩
  | accepting entry frame message named => exact ⟨rfl, rfl⟩
  | lost error passed unnamed => exact Or.inr rfl

theorem begun_ended_iff {request : Request} {acquired : Bool} {next : Phase}
    (begun : Begun crates config request acquired next) :
    next.hasEnded = true ↔ acquired = true ∧ ¬ NamesSession crates config request := by
  cases begun with
  | rejecting entry rejection refused named =>
      exact ⟨fun never => by contradiction, fun both => absurd (named both.1) both.2⟩
  | accepting entry frame message named =>
      exact ⟨fun never => by contradiction, fun both => absurd named both.2⟩
  | lost error passed unnamed => exact ⟨fun _ => ⟨passed, unnamed⟩, fun _ => rfl⟩

variable {system : System} {index : Nat} {request : Request}

theorem received_turned {admitted : Bool × HttpRateWindow} {next : Phase}
    (begun : Begun crates config request admitted.1 next) :
    Turned system ({ system with window := admitted.2 }.setPhase index ⟨request, .received⟩ next) index
      ⟨request, .received⟩ next [] [] := by
  refine turned_silent rfl rfl rfl rfl rfl ?_ ?_ ?_
  · rw [begun_owes crates config begun]
    rfl
  · rw [begun_owes crates config begun]
    rfl
  · rintro held out ⟨rfl, rfl⟩
    exact begun_standing crates config begun

theorem count_one {eventType : String} {record : EventRecord} (typed : record.eventType = eventType)
    (other : String) : count other [record] = if eventType = other then 1 else 0 := by
  simp [count, typed, eq_comm]

theorem accepting_turned {entry : Entry} {frame : HttpInputFrame} {message : AdapterInboundMessage}
    {record : EventRecord} (ran : (persistHttpAdapterEvent acceptedType entry system.world).1 = .ok record) :
    Turned system (system.persist index ⟨request, .accepting entry frame message⟩ acceptedType entry
        fun record => .accepted record frame message) index ⟨request, .accepting entry frame message⟩
      (.accepted record frame message) [record] [] := by
  have typed : record.eventType = acceptedType := (persist_returned (Prod.ext ran rfl)).1
  apply turned_persist ran
  · rw [count_one typed]
    simp [Phase.owes]
  · rw [count_one typed]
    simp [Phase.owes, types_apart, types_apart.symm]
  · rintro held out ⟨rfl, rfl⟩
    exact ⟨rfl, typed, rfl⟩

theorem rejecting_turned {entry : Entry} {rejection : HttpAdapterRejection} {record : EventRecord}
    (ran : (persistHttpAdapterEvent rejectedType entry system.world).1 = .ok record) :
    Turned system (system.persist index ⟨request, .rejecting entry rejection⟩ rejectedType entry
        fun _ => .rejected rejection) index ⟨request, .rejecting entry rejection⟩
      (.rejected rejection) [record] [] := by
  have typed : record.eventType = rejectedType := (persist_returned (Prod.ext ran rfl)).1
  apply turned_persist ran
  · rw [count_one typed]
    simp [Phase.owes, types_apart, types_apart.symm]
  · rw [count_one typed]
    simp [Phase.owes]
  · rintro held out ⟨rfl, rfl, refused⟩
    exact ⟨⟨record, rfl, typed⟩, rfl, refused⟩

theorem accepted_turned {record : EventRecord} {frame : HttpInputFrame} {message : AdapterInboundMessage} :
    Turned system ({ system with accepted := system.accepted + 1 }.setPhase index
        ⟨request, .accepted record frame message⟩ (.emitting record frame message)) index
      ⟨request, .accepted record frame message⟩ (.emitting record frame message) [] [] := by
  refine turned_silent rfl rfl rfl rfl rfl ?_ ?_ ?_
  · simp [Phase.owes, System.setPhase]
  · simp [Phase.owes, System.setPhase, types_apart.symm]
  · exact fun _ _ standing => standing

theorem rejected_turned {rejection : HttpAdapterRejection} :
    Turned system ({ system with rejected := system.rejected + 1 }.setPhase index
        ⟨request, .rejected rejection⟩ (.ended (rejectedResponse rejection))) index
      ⟨request, .rejected rejection⟩ (.ended (rejectedResponse rejection)) [] [] := by
  refine turned_silent rfl rfl rfl rfl rfl ?_ ?_ ?_
  · simp [Phase.owes, System.setPhase, types_apart]
  · simp [Phase.owes, System.setPhase]
  · rintro held out ⟨⟨row, rfl, typed⟩, rfl, refused⟩
    have unaccepted : row.eventType ≠ acceptedType := fun same => types_apart (same.symm.trans typed)
    refine Or.inl ⟨row, rfl, Or.inr typed, ⟨fun good => absurd good refused, fun same => absurd same unaccepted⟩, ?_⟩
    exact ⟨fun same => absurd same unaccepted, fun ⟨_, sent⟩ => by contradiction⟩

theorem emitting_turned {record : EventRecord} {frame : HttpInputFrame} {message : AdapterInboundMessage}
    {events : List AdapterEvent} (listening : system.bus = some events) :
    Turned system (system.emit index ⟨request, .emitting record frame message⟩ record frame message) index
      ⟨request, .emitting record frame message⟩ (.ended (acceptedResponse frame message record)) []
        [.inboundMessage message] := by
  unfold System.emit
  rw [listening]
  constructor
  · rfl
  · simp [System.setPhase]
  · rfl
  · simp [System.setPhase]
  · simp [System.setPhase, listening]
  · rfl
  · rfl
  · rintro held out ⟨rfl, typed, rfl⟩
    refine Or.inl ⟨record, rfl, Or.inl typed, ⟨fun _ => typed, fun _ => rfl⟩, ?_⟩
    exact ⟨fun _ => ⟨message, rfl⟩, fun _ => typed⟩

theorem turn_turned (now restart : Nat) {handler : Handler} {events : List AdapterEvent} (listening : system.bus = some events)
    (persists : ∀ eventType entry, handler.phase.awaits = some (eventType, entry) →
      ∃ record, (persistHttpAdapterEvent eventType entry system.world).1 = .ok record)
    (awake : handler.phase.hasEnded = false) :
    ∃ phase wrote put,
      Turned system (system.turn crates config index now restart handler) index handler phase wrote put ∧
      ∀ held out, Standing handler.phase held out →
        ((phase.hasEnded = true ∧ held ++ wrote = []) ↔ handler.phase = .received ∧
          (system.window.tryAcquire config.rateLimitPerMinute now restart).1 = true ∧
            ¬ NamesSession crates config handler.request) := by
  obtain ⟨request, phase⟩ := handler
  cases phase with
  | received =>
      have begun := begin_begun crates config request
        (system.window.tryAcquire config.rateLimitPerMinute now restart).1
      refine ⟨_, [], [], received_turned crates config begun, ?_⟩
      rintro held out ⟨rfl, rfl⟩
      simp [begun_ended_iff crates config begun]
  | accepting entry frame message =>
      obtain ⟨record, ran⟩ := persists acceptedType entry rfl
      exact ⟨_, _, _, accepting_turned ran, fun _ _ _ => by simp⟩
  | accepted record frame message => exact ⟨_, _, _, accepted_turned, fun _ _ _ => by simp [Phase.hasEnded]⟩
  | emitting record frame message =>
      refine ⟨_, _, _, emitting_turned listening, ?_⟩
      rintro held out ⟨rfl, typed, rfl⟩
      simp
  | rejecting entry rejection =>
      obtain ⟨record, ran⟩ := persists rejectedType entry rfl
      exact ⟨_, _, _, rejecting_turned ran, fun _ _ _ => by simp⟩
  | rejected rejection =>
      refine ⟨_, _, _, rejected_turned, ?_⟩
      rintro held out ⟨⟨row, rfl, typed⟩, rfl, refused⟩
      simp
  | ended response => exact absurd awake (by simp [Phase.hasEnded])

/-! The invariant. -/

theorem own_append {Entry : Type} (first last : List (Nat × Entry)) (index : Nat) :
    own (first ++ last) index = own first index ++ own last index := by
  simp [own]

theorem own_same {Entry : Type} (entries : List Entry) (index : Nat) :
    own (entries.map fun entry => (index, entry)) index = entries := by
  simp [own, List.filter_map, Function.comp_def]

theorem own_other {Entry : Type} (entries : List Entry) {index other : Nat} (apart : index ≠ other) :
    own (entries.map fun entry => (index, entry)) other = [] := by
  simp [own, List.filter_map, Function.comp_def, apart]

theorem own_outside {Entry : Type} (trail : List (Nat × Entry)) {index : Nat}
    (inside : ∀ item ∈ trail, item.1 < index) : own trail index = [] := by
  rw [own, List.filter_eq_nil_iff.mpr, List.map_nil]
  intro item member
  simpa using Nat.ne_of_lt (inside item member)

-- The rows that are written and not counted yet.
def owed (eventType : String) (handlers : List Handler) : Nat :=
  (handlers.map fun handler => handler.phase.owes eventType).sum

theorem owed_set (eventType : String) (handlers : List Handler) {index : Nat} {handler : Handler}
    (found : handlers[index]? = some handler) (other : Handler) :
    owed eventType (handlers.set index other) + handler.phase.owes eventType =
      owed eventType handlers + other.phase.owes eventType := by
  induction handlers generalizing index with
  | nil => simp at found
  | cons head rest ih =>
      cases index with
      | zero =>
          cases found
          simp only [owed, List.set_cons_zero, List.map_cons, List.sum_cons]
          omega
      | succ index =>
          have later := ih (show rest[index]? = some handler by simpa using found)
          simp only [owed, List.set_cons_succ, List.map_cons, List.sum_cons] at later ⊢
          omega

structure Sound (start system : System) : Prop where
  journal : system.world.store.events.rows = start.world.store.events.rows ++ system.rows.map Prod.snd
  bus : system.bus = some (system.sent.map Prod.snd)
  writers : ∀ item ∈ system.rows, item.1 < system.handlers.length
  senders : ∀ item ∈ system.sent, item.1 < system.handlers.length
  standing : ∀ index handler, system.handlers[index]? = some handler →
    Standing handler.phase (own system.rows index) (own system.sent index)
  accepted : system.accepted + owed acceptedType system.handlers =
    count acceptedType (system.rows.map Prod.snd)
  rejected : system.rejected + owed rejectedType system.handlers =
    count rejectedType (system.rows.map Prod.snd)

theorem fresh_sound {start : System} (fresh : Fresh start) : Sound start start where
  journal := by simp [fresh.rows]
  bus := by simp [fresh.bus, fresh.sent]
  writers := by simp [fresh.rows]
  senders := by simp [fresh.sent]
  standing := by simp [fresh.handlers]
  accepted := by simp [fresh.accepted, fresh.handlers, fresh.rows, owed, count]
  rejected := by simp [fresh.rejected, fresh.handlers, fresh.rows, owed, count]

theorem sound_arrive {start : System} (sound : Sound start system) (request : Request) :
    Sound start (system.step crates config (.arrive request)) where
  journal := sound.journal
  bus := sound.bus
  writers := by
    intro item member
    simpa [System.step] using Nat.lt_succ_of_lt (sound.writers item member)
  senders := by
    intro item member
    simpa [System.step] using Nat.lt_succ_of_lt (sound.senders item member)
  standing := by
    intro index handler found
    simp only [System.step, List.getElem?_append] at found
    by_cases earlier : index < system.handlers.length
    · rw [if_pos earlier] at found
      exact sound.standing index handler found
    · rw [if_neg earlier] at found
      have last : index = system.handlers.length ∧ handler = ⟨request, .received⟩ := by
        cases distance : index - system.handlers.length with
        | zero =>
            rw [distance] at found
            cases found
            exact ⟨by omega, rfl⟩
        | succ more => simp [distance] at found
      obtain ⟨rfl, rfl⟩ := last
      exact ⟨own_outside _ sound.writers, own_outside _ sound.senders⟩
  accepted := by
    simpa [System.step, owed, Phase.owes] using sound.accepted
  rejected := by
    simpa [System.step, owed, Phase.owes] using sound.rejected

theorem count_append (eventType : String) (first last : List EventRecord) :
    count eventType (first ++ last) = count eventType first + count eventType last :=
  List.countP_append

theorem sound_turned {start after : System} {handler : Handler} {phase : Phase} {wrote : List EventRecord}
    {put : List AdapterEvent} (sound : Sound start system) (found : system.handlers[index]? = some handler)
    (turned : Turned system after index handler phase wrote put) : Sound start after := by
  have inside : index < system.handlers.length := (List.getElem?_eq_some_iff.mp found).1
  have snds : ∀ {Entry : Type} (entries : List Entry),
      (entries.map fun entry => (index, entry)).map Prod.snd = entries := by simp
  constructor
  · rw [turned.journal, sound.journal, turned.rows, List.map_append, snds, List.append_assoc]
  · rw [turned.bus, sound.bus, turned.sent, List.map_append, snds]
    rfl
  · intro item member
    rw [turned.rows, List.mem_append] at member
    rw [turned.handlers, List.length_set]
    rcases member with earlier | new
    · exact sound.writers item earlier
    · obtain ⟨row, _, rfl⟩ := List.mem_map.mp new
      exact inside
  · intro item member
    rw [turned.sent, List.mem_append] at member
    rw [turned.handlers, List.length_set]
    rcases member with earlier | new
    · exact sound.senders item earlier
    · obtain ⟨event, _, rfl⟩ := List.mem_map.mp new
      exact inside
  · intro other held shown
    rw [turned.handlers] at shown
    rw [turned.rows, turned.sent, own_append, own_append]
    by_cases same : index = other
    · subst same
      rw [List.getElem?_set_self inside] at shown
      cases shown
      rw [own_same, own_same]
      exact turned.standing _ _ (sound.standing index handler found)
    · rw [List.getElem?_set_ne same] at shown
      rw [own_other wrote same, own_other put same, List.append_nil, List.append_nil]
      exact sound.standing other held shown
  · have owing := owed_set acceptedType system.handlers found ⟨handler.request, phase⟩
    rw [turned.handlers, turned.rows, List.map_append, snds, count_append, ← sound.accepted]
    have moved := turned.accepted
    dsimp only at owing
    omega
  · have owing := owed_set rejectedType system.handlers found ⟨handler.request, phase⟩
    rw [turned.handlers, turned.rows, List.map_append, snds, count_append, ← sound.rejected]
    have moved := turned.rejected
    dsimp only at owing
    omega

/-! Every handler ends. -/

def Phase.left : Phase → Nat
  | .received => 4
  | .accepting .. => 3
  | .accepted .. | .rejecting .. => 2
  | .emitting .. | .rejected .. => 1
  | .ended _ => 0

theorem left_ended {phase : Phase} (done : phase.left = 0) : phase.hasEnded = true := by
  cases phase <;> first | rfl | contradiction

theorem setPhase_found (system : System) {index : Nat} {handler : Handler} (inside : index < system.handlers.length)
    (phase : Phase) : (system.setPhase index handler phase).handlers[index]? = some ⟨handler.request, phase⟩ :=
  List.getElem?_set_self inside

theorem persist_left {eventType : String} {entry : Entry} {next : EventRecord → Phase} {handler : Handler}
    {most : Nat} (inside : index < system.handlers.length) (fewer : ∀ record, (next record).left ≤ most) :
    ∃ after, (system.persist index handler eventType entry next).handlers[index]? = some after ∧
      after.phase.left ≤ most := by
  unfold System.persist
  cases persistHttpAdapterEvent eventType entry system.world with
  | mk outcome world =>
      cases outcome with
      | error error => exact ⟨_, setPhase_found _ inside _, Nat.zero_le _⟩
      | ok record => exact ⟨_, setPhase_found _ inside _, fewer record⟩

theorem begun_left {acquired : Bool} {next : Phase} (begun : Begun crates config request acquired next) :
    next.left ≤ 3 := by
  cases begun <;> simp [Phase.left]

theorem turn_left (now restart : Nat) {handler : Handler} (found : system.handlers[index]? = some handler) :
    ∃ after, (system.turn crates config index now restart handler).handlers[index]? = some after ∧
      after.phase.left ≤ handler.phase.left - 1 := by
  have inside : index < system.handlers.length := (List.getElem?_eq_some_iff.mp found).1
  obtain ⟨request, phase⟩ := handler
  cases phase with
  | received =>
      simp only [System.turn]
      exact ⟨_, setPhase_found _ inside _, begun_left crates config (begin_begun crates config request _)⟩
  | accepting entry frame message =>
      simp only [System.turn]
      apply persist_left inside
      exact fun _ => Nat.le_refl 2
  | accepted record frame message =>
      simp only [System.turn]
      exact ⟨_, setPhase_found _ inside _, Nat.le_refl 1⟩
  | emitting record frame message =>
      simp only [System.turn, System.emit]
      cases system.bus with
      | none => exact ⟨_, setPhase_found _ inside _, Nat.le_refl 0⟩
      | some events => exact ⟨_, setPhase_found _ inside _, Nat.le_refl 0⟩
  | rejecting entry rejection =>
      simp only [System.turn]
      apply persist_left inside
      exact fun _ => Nat.le_refl 1
  | rejected rejection =>
      simp only [System.turn]
      exact ⟨_, setPhase_found _ inside _, Nat.le_refl 0⟩
  | ended response =>
      simp only [System.turn]
      exact ⟨_, found, Nat.le_refl 0⟩

theorem turns_left {handler : Handler} (found : system.handlers[index]? = some handler)
    (clocks : List (Nat × Nat)) :
    ∃ after, (system.run crates config (turnsOf index clocks)).handlers[index]? = some after ∧
      after.phase.left ≤ handler.phase.left - clocks.length := by
  induction clocks generalizing system handler with
  | nil => exact ⟨handler, found, Nat.le_refl _⟩
  | cons clock rest ih =>
      obtain ⟨next, shown, fewer⟩ := turn_left crates config clock.1 clock.2 found
      have stepped : (system.step crates config (.turn index clock.1 clock.2)).handlers[index]? = some next := by
        simp only [System.step, found]
        exact shown
      obtain ⟨last, ended, least⟩ := ih stepped
      refine ⟨last, ended, ?_⟩
      rw [List.length_cons]
      omega

/-! Requests that end without a row. -/

def Lost (system : System) : Prop :=
  ∃ index handler, system.handlers[index]? = some handler ∧ handler.phase.hasEnded = true ∧
    own system.rows index = []

theorem lost_turned {after : System} {handler : Handler} {phase : Phase} {wrote : List EventRecord}
    {put : List AdapterEvent} (found : system.handlers[index]? = some handler)
    (awake : handler.phase.hasEnded = false)
    (turned : Turned system after index handler phase wrote put) :
    Lost after ↔ Lost system ∨ (phase.hasEnded = true ∧ own system.rows index ++ wrote = []) := by
  have inside : index < system.handlers.length := (List.getElem?_eq_some_iff.mp found).1
  have mine : after.handlers[index]? = some ⟨handler.request, phase⟩ := by
    rw [turned.handlers, List.getElem?_set_self inside]
  have others : ∀ other, index ≠ other → after.handlers[other]? = system.handlers[other]? ∧
      own after.rows other = own system.rows other := by
    intro other apart
    rw [turned.handlers, List.getElem?_set_ne apart, turned.rows, own_append, own_other wrote apart,
      List.append_nil]
    exact ⟨rfl, rfl⟩
  have rows : own after.rows index = own system.rows index ++ wrote := by
    rw [turned.rows, own_append, own_same]
  constructor
  · rintro ⟨other, held, shown, ended, empty⟩
    by_cases same : index = other
    · subst same
      rw [mine] at shown
      cases shown
      exact Or.inr ⟨ended, rows ▸ empty⟩
    · obtain ⟨kept, alike⟩ := others other same
      exact Or.inl ⟨other, held, kept ▸ shown, ended, alike ▸ empty⟩
  · rintro (⟨other, held, shown, ended, empty⟩ | ⟨ended, empty⟩)
    · by_cases same : index = other
      · subst same
        rw [found] at shown
        cases shown
        exact absurd ended (by simp [awake])
      · obtain ⟨kept, alike⟩ := others other same
        exact ⟨other, held, kept.trans shown, ended, alike.trans empty⟩
    · exact ⟨index, _, mine, ended, rows.trans empty⟩

theorem lost_arrive (request : Request) : Lost (system.step crates config (.arrive request)) ↔ Lost system := by
  constructor
  · rintro ⟨index, handler, shown, ended, empty⟩
    simp only [System.step, List.getElem?_append] at shown
    by_cases earlier : index < system.handlers.length
    · rw [if_pos earlier] at shown
      exact ⟨index, handler, shown, ended, empty⟩
    · rw [if_neg earlier] at shown
      have member : handler ∈ [Handler.mk request .received] := List.mem_of_getElem? shown
      rw [List.mem_singleton.mp member] at ended
      contradiction
  · rintro ⟨index, handler, shown, ended, empty⟩
    have inside : index < system.handlers.length := (List.getElem?_eq_some_iff.mp shown).1
    refine ⟨index, handler, ?_, ended, empty⟩
    simp only [System.step, List.getElem?_append, if_pos inside, shown]

/-- One step keeps the account; a request is lost exactly by a turn that meets a wrong session name. -/
theorem step_sound {start : System} (sound : Sound start system) {act : Act} (persists : Persists system act) :
    Sound start (system.step crates config act) ∧
      (Lost (system.step crates config act) ↔ Lost system ∨ ¬ Named crates config system act) := by
  cases act with
  | arrive request =>
      refine ⟨sound_arrive crates config sound request, ?_⟩
      rw [lost_arrive]
      simp [Named]
  | turn index now restart =>
      cases found : system.handlers[index]? with
      | none =>
          simp only [System.step, found]
          exact ⟨sound, by simp [Named, found]⟩
      | some handler =>
          simp only [System.step, found]
          cases awake : handler.phase.hasEnded with
          | true =>
              have still : system.turn crates config index now restart handler = system := by
                cases phase : handler.phase with
                | ended response => simp [System.turn, phase]
                | _ => simp [phase, Phase.hasEnded] at awake
              have named : Named crates config system (.turn index now restart) := by
                intro other shown received
                rw [found] at shown
                cases shown
                simp [received, Phase.hasEnded] at awake
              rw [still]
              exact ⟨sound, by simp [named]⟩
          | false =>
              obtain ⟨phase, wrote, put, turned, lost⟩ := turn_turned crates config now restart sound.bus
                (persists handler · · found) awake
              refine ⟨sound_turned sound found turned, ?_⟩
              rw [lost_turned found awake turned, lost _ _ (sound.standing index handler found)]
              simp [Named, found]

theorem run_sound {start : System} (sound : Sound start system) (acts : List Act)
    (persists : Along crates config Persists system acts) :
    Sound start (system.run crates config acts) ∧
      (Lost (system.run crates config acts) ↔
        Lost system ∨ ¬ Along crates config (Named crates config) system acts) := by
  induction acts generalizing system with
  | nil => exact ⟨sound, by simp [System.run, Along]⟩
  | cons act rest ih =>
      obtain ⟨next, lost⟩ := step_sound crates config sound persists.1
      obtain ⟨last, later⟩ := ih next persists.2
      refine ⟨last, ?_⟩
      change Lost ((system.step crates config act).run crates config rest) ↔ _
      rw [later, lost, Along]
      tauto

theorem owed_ended (eventType : String) (handlers : List Handler)
    (ended : ∀ handler ∈ handlers, handler.phase.hasEnded = true) : owed eventType handlers = 0 := by
  induction handlers with
  | nil => rfl
  | cons handler rest ih =>
      have later := ih fun other member => ended other (List.mem_cons_of_mem handler member)
      have first := ended handler List.mem_cons_self
      obtain ⟨request, phase⟩ := handler
      cases phase with
      | ended response => simpa [owed, Phase.owes] using later
      | _ => contradiction

theorem accounted_iff {start : System} (sound : Sound start system) :
    Accounted crates config start system ↔ ¬ Lost system := by
  constructor
  · rintro accounted ⟨index, ⟨request, phase⟩, shown, ended, empty⟩
    cases phase with
    | ended response =>
        obtain ⟨row, rows, _⟩ := accounted.answered index _ response shown rfl
        rw [empty] at rows
        contradiction
    | _ => contradiction
  · intro kept
    constructor
    · exact sound.journal
    · exact sound.bus
    · intro index handler response shown ended
      have standing := sound.standing index handler shown
      rw [ended] at standing
      rcases standing with answered | empty
      · exact answered
      · exact absurd ⟨index, handler, shown, by rw [ended]; rfl, empty⟩ kept
    · intro ended
      have accepted := sound.accepted
      have rejected := sound.rejected
      rw [owed_ended _ _ ended, Nat.add_zero] at accepted rejected
      exact ⟨accepted, rejected⟩
    · intro index clocks inside four
      obtain ⟨after, shown, fewer⟩ := turns_left crates config
        (List.getElem?_eq_getElem inside) clocks
      refine ⟨after, shown, left_ended ?_⟩
      have most : (system.handlers[index]).phase.left ≤ 4 := by
        cases (system.handlers[index]).phase <;> simp [Phase.left]
      omega

/-- In any run of the mounted adapter in which the journal takes every row, every request is accounted
for, with one row, the matching response and event and the matching counters, exactly when no request
that passes the rate limit, the authentication and the check of its frame has a session name that is
not an adapter identifier. -/
theorem requests_accounted_iff (start : System) (acts : List Act) (fresh : Fresh start)
    (persists : Along crates config Persists start acts) :
    Accounted crates config start (start.run crates config acts) ↔
      Along crates config (Named crates config) start acts := by
  obtain ⟨sound, lost⟩ := run_sound crates config (fresh_sound fresh) acts persists
  have clean : ¬ Lost start := by
    rintro ⟨index, handler, shown, _⟩
    rw [fresh.handlers] at shown
    simp at shown
  rw [accounted_iff crates config sound, lost]
  tauto

def sessionText (resumeName : String) : String :=
  "\x7b\"id\":\"req-1\",\"source\":\x7b\"resume_name\":\"" ++ resumeName ++
    "\"\x7d,\"command\":\"task_list\"\x7d"

def sessionJson (resumeName : String) : Json :=
  .object [("command", .string "task_list"), ("id", .string "req-1"),
    ("source", .object [("resume_name", .string resumeName)])]

def sessionRequest (resumeName : String) : Request :=
  ⟨"127.0.0.1:9", [], (sessionText resumeName).toUTF8.toList⟩

-- What `serde_json` reads of the two bodies below.
def sampleCrates : Crates where
  headerName name := some name
  toStr _ := none
  fromSlice body :=
    if body = (sessionText "work").toUTF8.toList then .ok (sessionJson "work")
    else if body = (sessionText "My work").toUTF8.toList then .ok (sessionJson "My work")
    else .error "expected value at line 1 column 1"

def openConfig : HttpInboundAdapterConfig := ⟨"/adapter/http", .disabled, 60⟩

def mounted : System where
  world := ⟨Store.empty, fun _ => ⟨0⟩, fun _ => "message", 0⟩
  window := ⟨0, 0⟩
  accepted := 0
  rejected := 0
  bus := some []
  handlers := []
  rows := []
  sent := []

theorem mounted_fresh : Fresh mounted := ⟨rfl, rfl, rfl, rfl, rfl, rfl⟩

theorem awaits_type {phase : Phase} {eventType : String} {entry : Entry}
    (awaits : phase.awaits = some (eventType, entry)) : eventType = acceptedType ∨ eventType = rejectedType := by
  cases phase with
  | accepting entry frame message =>
      cases awaits
      exact Or.inl rfl
  | rejecting entry rejection =>
      cases awaits
      exact Or.inr rfl
  | _ => contradiction

def sessionFrame (resumeName : String) : HttpInputFrame :=
  ⟨"missive.http.v1", "req-1", ⟨"http", none, resumeName, none⟩,
    .taskList ⟨none, none, none, none, none, false, none, none, none, false⟩, .new⟩

theorem sessionFrame_decoded (resumeName : String) :
    decodeFrame httpFormat (sessionJson resumeName) = some (sessionFrame resumeName) := rfl

theorem bodies_apart : (sessionText "My work").toUTF8.toList ≠ (sessionText "work").toUTF8.toList := by
  decide +kernel

theorem sampleCrates_work :
    sampleCrates.fromSlice (sessionRequest "work").body = .ok (sessionJson "work") := if_pos rfl

theorem work_named : NamesSession sampleCrates openConfig (sessionRequest "work") := by
  intro authValidated rawJson frame _ parsed framed
  rw [sampleCrates_work] at parsed
  cases parsed
  have decoded := (fromValue_iff.mp framed).1
  rw [sessionFrame_decoded] at decoded
  cases decoded
  decide

theorem work_session_accounted :
    Accounted sampleCrates openConfig mounted (mounted.run sampleCrates openConfig
      [.arrive (sessionRequest "work"), .turn 0 0 0, .turn 0 0 0]) := by
  refine (requests_accounted_iff sampleCrates openConfig mounted _ mounted_fresh ?_).mpr ?_
  · refine ⟨trivial, ?_, ?_, trivial⟩
    · intro handler eventType entry found awaits
      cases found
      contradiction
    · intro handler eventType entry found awaits
      rcases awaits_type awaits with rfl | rfl
      · exact ⟨_, rfl⟩
      · exact ⟨_, rfl⟩
  · refine ⟨trivial, ?_, ?_, trivial⟩
    · intro handler found _ _
      cases found
      exact work_named
    · intro handler found _ _
      cases found
      exact work_named

/-- A session name with a capital letter and a blank passes the check of the frame; the request is
answered with `500` and leaves no row. -/
theorem capital_session_lost :
    Fresh mounted ∧
      Along sampleCrates openConfig Persists mounted [.arrive (sessionRequest "My work"), .turn 0 0 0] ∧
      ¬ Accounted sampleCrates openConfig mounted (mounted.run sampleCrates openConfig
        [.arrive (sessionRequest "My work"), .turn 0 0 0]) := by
  have persists : Along sampleCrates openConfig Persists mounted
      [.arrive (sessionRequest "My work"), .turn 0 0 0] := by
    refine ⟨trivial, ?_, trivial⟩
    intro handler eventType entry found awaits
    cases found
    contradiction
  refine ⟨mounted_fresh, persists, ?_⟩
  obtain ⟨sound, lost⟩ := run_sound sampleCrates openConfig (fresh_sound mounted_fresh) _ persists
  rw [accounted_iff sampleCrates openConfig sound, not_not, lost]
  refine Or.inr fun along => ?_
  have named := along.2.1 ⟨sessionRequest "My work", .received⟩ rfl rfl rfl
  have parsed : sampleCrates.fromSlice (sessionRequest "My work").body = .ok (sessionJson "My work") :=
    (if_neg bodies_apart).trans (if_pos rfl)
  have valid : (sessionFrame "My work").validate httpFormat = .ok () := by decide
  have wrong := named false _ _ rfl parsed (fromValue_iff.mpr ⟨sessionFrame_decoded "My work", valid⟩)
  exact absurd wrong (by decide)

end Missive.HttpControl
