import Mathlib.Data.List.Forall2
import Missive.Protocol
import Missive.SseRecords

/-! The events of a stream, as `parse_stream_event_data` reads them off the data of a record. Both
bindings share it: HTTP+JSON sends an event as it is, JSON-RPC sends it as the result of a response.
What `serde_json` reads of a text, and the A2A types of a value, comes from outside. -/
namespace Missive.StreamEvents

open JsonValue Missive.Core Protocol SseRecords

structure JsonRpcError where
  code : Int
  message : String

structure JsonRpcResponse where
  result : Option Json
  error : Option JsonRpcError

-- `error_code::VERSION_NOT_SUPPORTED`
def versionNotSupported : Int := -32009

structure Sdk where
  JsonRpcId : Type
  idValue : JsonRpcId → Json
  fromStr : String → Option Json
  jsonRpcResponse : Json → Option JsonRpcResponse
  streamResponse : Json → Option StreamResponse

def looksLikeJsonRpcResponse (value : Json) : Bool :=
  (value.get "jsonrpc").isSome || (value.get "result").isSome || (value.get "error").isSome

section Parse

variable (sdk : Sdk) (endpoint : String) (sequence : UInt64) (protocolVersion : String)

-- The status is the one of a stream that could be opened.
def unsupportedProtocolVersion : MissiveError :=
  (MissiveError.protocol (s!"A2A protocol version {debug protocolVersion} is not supported by " ++
    s!"{endpoint} (HTTP 200 OK)")).withHelp
    ("Choose a protocol_version supported by the remote Agent Card or retry without " ++
      "--protocol-version.")

def invalidJson : MissiveError :=
  (MissiveError.protocol s!"A2A stream event {sequence} from {endpoint} is not valid JSON").withHelp
    "Each SSE data field must contain one complete JSON stream response object."

def notResponse : MissiveError :=
  MissiveError.protocol s!"A2A stream event {sequence} from {endpoint} is not a JSON-RPC response"

def responseFailure (error : JsonRpcError) : MissiveError :=
  if error.code = versionNotSupported then unsupportedProtocolVersion endpoint protocolVersion
  else
    (MissiveError.protocol (s!"A2A stream event {sequence} failed with JSON-RPC code " ++
      s!"{error.code}: {error.message}")).withHelp
      "Inspect the remote agent error data and retry if appropriate."

def noResult : MissiveError :=
  MissiveError.protocol
    s!"A2A stream event {sequence} from {endpoint} did not include result or error"

def malformedEvent : MissiveError :=
  (MissiveError.protocol s!"malformed A2A stream event {sequence} from {endpoint}").withHelp
    "Expected exactly one of task, message, statusUpdate, or artifactUpdate."

def eventJson (rawJson : Json) : Except MissiveError Json :=
  if looksLikeJsonRpcResponse rawJson then
    match sdk.jsonRpcResponse rawJson with
    | none => .error (notResponse endpoint sequence)
    | some ⟨_, some error⟩ => .error (responseFailure endpoint sequence protocolVersion error)
    | some ⟨none, none⟩ => .error (noResult endpoint sequence)
    | some ⟨some result, none⟩ => .ok result
  else .ok rawJson

def decodeEvent (json : Json) : Except MissiveError (StreamResponse × Json) :=
  match sdk.streamResponse json with
  | some event => .ok (event, json)
  | none => .error (malformedEvent endpoint sequence)

def parseStreamEventData (data : String) : Except MissiveError (StreamResponse × Json) :=
  match sdk.fromStr data with
  | none => .error (invalidJson endpoint sequence)
  | some rawJson =>
      (eventJson sdk endpoint sequence protocolVersion rawJson).bind
        (decodeEvent sdk endpoint sequence)

end Parse

/-! What the A2A types say of a response. -/

def Sdk.successEnvelope (sdk : Sdk) (id : sdk.JsonRpcId) (value : Json) : Json :=
  .object [("id", sdk.idValue id), ("jsonrpc", .string "2.0"), ("result", value)]

-- An optional field of a response: `null` is no value.
def present : Json → Option Json
  | .null => none
  | value => some value

structure Sdk.Documented (sdk : Sdk) : Prop where
  success : ∀ id value,
    sdk.jsonRpcResponse (sdk.successEnvelope id value) = some ⟨present value, none⟩
  failure : ∀ {value error response}, value.get "error" = some error → error ≠ .null →
    sdk.jsonRpcResponse value = some response → response.error.isSome
  event : sdk.streamResponse .null = none

-- A value that is not taken for a response.
structure Bare (value : Json) : Prop where
  version : value.get "jsonrpc" = none
  result : value.get "result" = none
  error : value.get "error" = none

section Framing

variable {sdk : Sdk} {endpoint : String} {sequence : UInt64} {protocolVersion : String}

theorem bare_unwrapped {value : Json} (bare : Bare value) :
    eventJson sdk endpoint sequence protocolVersion value = .ok value := by
  have plain : looksLikeJsonRpcResponse value = false := by
    simp [looksLikeJsonRpcResponse, bare.version, bare.result, bare.error]
  simp [eventJson, plain]

theorem envelope_unwrapped (documented : sdk.Documented) (id : sdk.JsonRpcId) (value : Json) :
    eventJson sdk endpoint sequence protocolVersion (sdk.successEnvelope id value) =
      if value = .null then .error (noResult endpoint sequence) else .ok value := by
  have framed : looksLikeJsonRpcResponse (sdk.successEnvelope id value) = true := by
    simp [looksLikeJsonRpcResponse, Sdk.successEnvelope]
  cases value <;> simp [eventJson, framed, documented.success, present]

theorem failure_refused (documented : sdk.Documented) {value error : Json}
    (carried : value.get "error" = some error) (failed : error ≠ .null) :
    ∃ reason, eventJson sdk endpoint sequence protocolVersion value = .error reason := by
  have framed : looksLikeJsonRpcResponse value = true := by
    simp [looksLikeJsonRpcResponse, carried]
  cases read : sdk.jsonRpcResponse value with
  | none => exact ⟨notResponse endpoint sequence, by simp [eventJson, framed, read]⟩
  | some response =>
      have named := documented.failure carried failed read
      obtain ⟨result, error⟩ := response
      cases error with
      | none => simp at named
      | some error =>
          exact ⟨responseFailure endpoint sequence protocolVersion error, by
            simp [eventJson, framed, read]⟩

theorem bare_parsed {value : Json} (bare : Bare value) {data : String}
    (reads : sdk.fromStr data = some value) :
    parseStreamEventData sdk endpoint sequence protocolVersion data =
      decodeEvent sdk endpoint sequence value := by
  simp [parseStreamEventData, reads, bare_unwrapped bare, Except.bind]

-- A result that is `null` is refused one step earlier than a bare `null`.
theorem envelope_parsed (documented : sdk.Documented) {id : sdk.JsonRpcId} {value : Json}
    {data : String} (reads : sdk.fromStr data = some (sdk.successEnvelope id value)) :
    (parseStreamEventData sdk endpoint sequence protocolVersion data).toOption =
      (decodeEvent sdk endpoint sequence value).toOption := by
  by_cases empty : value = .null
  · subst empty
    simp [parseStreamEventData, reads, envelope_unwrapped documented, Except.bind, decodeEvent,
      documented.event, Except.toOption]
  · simp [parseStreamEventData, reads, envelope_unwrapped documented, Except.bind, empty]

theorem framings_parsed (documented : sdk.Documented) {value : Json} (bare : Bare value)
    {id : sdk.JsonRpcId} {data enveloped : String} (reads : sdk.fromStr data = some value)
    (wraps : sdk.fromStr enveloped = some (sdk.successEnvelope id value)) :
    (parseStreamEventData sdk endpoint sequence protocolVersion data).toOption =
      (parseStreamEventData sdk endpoint sequence protocolVersion enveloped).toOption := by
  rw [bare_parsed bare reads, envelope_parsed documented wraps]

theorem failure_parsed (documented : sdk.Documented) {value error : Json}
    (carried : value.get "error" = some error) (failed : error ≠ .null) {data : String}
    (reads : sdk.fromStr data = some value) :
    ∃ reason, parseStreamEventData sdk endpoint sequence protocolVersion data = .error reason := by
  obtain ⟨reason, refused⟩ : ∃ reason, eventJson sdk endpoint sequence protocolVersion value =
      .error reason := failure_refused documented carried failed
  exact ⟨reason, by simp [parseStreamEventData, reads, refused, Except.bind]⟩

end Framing

def readsMessage (value : Json) : Option StreamResponse := do
  let message ← value.get "message"
  let messageId ← (message.get "messageId").bind Json.asStr
  match message.get "role", message.get "parts" with
  | some (.string "ROLE_AGENT"), some (.array []) =>
      some (.message ⟨messageId, none, none, .agent, [], none, none, none⟩)
  | _, _ => none

def readsError (value : Json) : Option JsonRpcError := do
  let message ← (value.get "message").bind Json.asStr
  match value.get "code" with
  | some (.number (.posInt code)) => some ⟨code, message⟩
  | some (.number (.negInt code)) => some ⟨code, message⟩
  | _ => none

def readsResponse (value : Json) : Option JsonRpcResponse := do
  let _ ← (value.get "jsonrpc").bind Json.asStr
  let _ ← value.get "id"
  let result := (value.get "result").bind present
  match (value.get "error").bind present with
  | none => some ⟨result, none⟩
  | some error => (readsError error).map fun failure => ⟨result, some failure⟩

def greeting : Json :=
  .object [("message", .object [("messageId", .string "m1"), ("parts", .array []),
    ("role", .string "ROLE_AGENT")])]

def refusal : Json :=
  .object [("error", .object [("code", .number (.negInt (-32001))),
    ("message", .string "Task not found")]), ("id", .string "1"), ("jsonrpc", .string "2.0")]

def greetingText : String :=
  "\x7b\"message\":\x7b\"messageId\":\"m1\",\"role\":\"ROLE_AGENT\",\"parts\":[]\x7d\x7d"

def envelopeText : String :=
  "\x7b\"jsonrpc\":\"2.0\",\"id\":\"1\",\"result\":" ++ greetingText ++ "\x7d"

def refusalText : String :=
  "\x7b\"jsonrpc\":\"2.0\",\"id\":\"1\",\"error\":" ++
    "\x7b\"code\":-32001,\"message\":\"Task not found\"\x7d\x7d"

def sampleSdk : Sdk where
  JsonRpcId := String
  idValue := .string
  fromStr text :=
    if text = greetingText then some greeting
    else if text = envelopeText then
      some (.object [("id", .string "1"), ("jsonrpc", .string "2.0"), ("result", greeting)])
    else if text = refusalText then some refusal else none
  jsonRpcResponse := readsResponse
  streamResponse := readsMessage

theorem sample_documented : sampleSdk.Documented where
  success id value := by cases value <;> rfl
  failure {value error response} carried failed read := by
    have kept : present error = some error := by
      cases error with
      | null => exact absurd rfl failed
      | _ => rfl
    cases version : (value.get "jsonrpc").bind Json.asStr with
    | none => simp [sampleSdk, readsResponse, version] at read
    | some text =>
        cases ident : value.get "id" with
        | none => simp [sampleSdk, readsResponse, version, ident] at read
        | some id =>
            simp only [sampleSdk, readsResponse, version, ident, carried, kept, Option.bind_eq_bind,
              Option.bind_some, Option.map_eq_some_iff] at read
            have ⟨error, _, made⟩ := read
            simp [← made]
  event := rfl

section Stream

variable (sdk : Sdk) (endpoint protocolVersion : String)

-- The events that `stream_sse_response` passes on, in the order of their records.
def streamItems (sequence : UInt64) : List SseRecord → Except MissiveError (List StreamMessageEvent)
  | [] => .ok []
  | record :: rest =>
      (parseStreamEventData sdk endpoint sequence protocolVersion record.data).bind fun parsed =>
        (streamItems (sequence + 1) rest).map fun items =>
          ⟨sequence, record.eventType, parsed.1, parsed.2⟩ :: items

theorem toOption_bind {Value Result : Type} (outcome : Except MissiveError Value)
    (next : Value → Except MissiveError Result) :
    (outcome.bind next).toOption = outcome.toOption.bind fun value => (next value).toOption := by
  cases outcome <;> rfl

theorem toOption_map {Value Result : Type} (outcome : Except MissiveError Value)
    (change : Value → Result) : (outcome.map change).toOption = outcome.toOption.map change := by
  cases outcome <;> rfl

structure Framed (bare wrapped : SseRecord) : Prop where
  kind : bare.eventType = wrapped.eventType
  data : ∃ (value : Json) (id : sdk.JsonRpcId), Bare value ∧
    sdk.fromStr bare.data = some value ∧
    sdk.fromStr wrapped.data = some (sdk.successEnvelope id value)

/-- A stream of events and the stream of their envelopes give the same events. -/
theorem streams_agree (documented : sdk.Documented) {bare wrapped : List SseRecord}
    (framed : List.Forall₂ (Framed sdk) bare wrapped) (sequence : UInt64) :
    (streamItems sdk endpoint protocolVersion sequence bare).toOption =
      (streamItems sdk endpoint protocolVersion sequence wrapped).toOption := by
  induction framed generalizing sequence with
  | nil => rfl
  | cons framed _ ih =>
      obtain ⟨kind, value, id, plain, reads, wraps⟩ := framed
      simp only [streamItems, toOption_bind, toOption_map, ih, kind,
        framings_parsed documented plain reads wraps]

end Stream

end Missive.StreamEvents
