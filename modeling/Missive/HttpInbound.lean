import Missive.BackgroundJobs
import Missive.ControlFrames

/-! The inbound messages of the `http` adapter: a control frame that passed its check is mapped to
the message that goes to the gateway's event bus. -/
namespace Missive.HttpInbound

open JsonValue Missive.Core JsonObjects StdioCommands ControlFrames BackgroundJobs Effects

def adapterIdentifierReason (value : String) : Option String :=
  shapeReason value 63 "lowercase ASCII letters, digits, '-', '_' or '.'" isNamedSeparator

def validateAdapterIdentifier (kind value : String) : Check :=
  match adapterIdentifierReason value with
  | none => .ok ()
  | some reason =>
      .error ((MissiveError.validation s!"invalid {kind}: {reason}").withHelp
        "Use lowercase ASCII letters or digits, with '-', '_' or '.' only in the middle.")

def validateExternalIdentifier (kind value : String) : Check :=
  match opaqueReason value with
  | none => .ok ()
  | some reason =>
      .error ((MissiveError.validation s!"invalid {kind}: {reason}").withHelp
        "Use a non-empty adapter identity without whitespace or control characters.")

structure AdapterDefinition where
  name : String
  kind : String
  enabled : Bool
  sessionProfile : Option String
  settings : Metadata

def AdapterDefinition.new (name kind : String) : Except MissiveError AdapterDefinition := do
  validateAdapterIdentifier "adapter name" name
  validateAdapterIdentifier "adapter kind" kind
  .ok ⟨name, kind, true, none, .new⟩

structure AdapterExternalIdentity where
  providerUserId : String
  providerChannelId : Option String
  displayName : Option String
  metadata : Metadata

def AdapterExternalIdentity.new (providerUserId : String) : Except MissiveError AdapterExternalIdentity := do
  validateExternalIdentifier "adapter provider user id" providerUserId
  .ok ⟨providerUserId, none, none, .new⟩

structure AdapterIdentity where
  adapterName : String
  sourceKind : String
  sourceId : String
  displayName : Option String
  metadata : Metadata

def AdapterIdentity.new (adapterName sourceKind sourceId : String) : Except MissiveError AdapterIdentity := do
  validateAdapterIdentifier "adapter identity adapter name" adapterName
  validateAdapterIdentifier "adapter identity source kind" sourceKind
  validateExternalIdentifier "adapter identity source id" sourceId
  .ok ⟨adapterName, sourceKind, sourceId, none, .new⟩

structure AdapterSession where
  resumeName : String
  profile : Option String
  targetAgent : Option AgentAlias
  contextId : Option ContextId
  metadata : Metadata

def AdapterSession.new (resumeName : String) : Except MissiveError AdapterSession := do
  validateAdapterIdentifier "adapter session resume name" resumeName
  .ok ⟨resumeName, none, none, none, .new⟩

inductive AdapterInboundPayload where
  | text (text : String) (mimeType : Option String)
  | json (value : Json)

structure AdapterInboundMessage where
  adapterName : String
  messageId : MessageId
  identity : AdapterIdentity
  session : AdapterSession
  payload : AdapterInboundPayload
  metadata : Metadata

def AdapterInboundMessage.new (adapterName : String) (messageId : MessageId) (identity : AdapterIdentity)
    (session : AdapterSession) (payload : AdapterInboundPayload) :
    Except MissiveError AdapterInboundMessage := do
  validateAdapterIdentifier "adapter inbound message adapter name" adapterName
  if identity.adapterName ≠ adapterName then
    throw ((MissiveError.validation
      s!"inbound adapter message from {debug adapterName} cannot use identity from adapter {debug identity.adapterName}").withHelp
      "Map the external identity with the same adapter that emits the message.")
  .ok ⟨adapterName, messageId, identity, session, payload, .new⟩

/-- `HttpAdapter`, of which the mapping reads the definition only. -/
structure HttpAdapter where
  definition : AdapterDefinition

def HttpAdapter.new (definition : AdapterDefinition) : Except MissiveError HttpAdapter :=
  if definition.kind ≠ "http" then
    .error (MissiveError.config s!"HTTP adapter cannot be created for adapter kind {debug definition.kind}")
  else .ok ⟨definition⟩

def HttpAdapter.mapIdentity (adapter : HttpAdapter) (external : AdapterExternalIdentity) :
    Except MissiveError AdapterIdentity := do
  let identity ← AdapterIdentity.new adapter.definition.name "http" external.providerUserId
  .ok { identity with displayName := external.displayName.or identity.displayName }

def targetAgent : HttpControlCommand → Option String
  | .send message => some message.agent
  | .stream command => some command.message.agent
  | .taskGet command => command.agent
  | .taskList command => command.agent
  | .taskWait command => command.agent
  | .taskCancel command => command.agent

def contextIdOf : HttpControlCommand → Option String
  | .send message => message.context
  | .stream command => command.message.context
  | .taskList command => command.context
  | .taskGet _ | .taskWait _ | .taskCancel _ => none

def commandPayloadFromMessage (commandName : String) (message : StdioMessageFields) : AdapterInboundPayload :=
  match message.message with
  | some text =>
      if message.textParts.isEmpty && message.jsonParts.isEmpty && message.files.isEmpty &&
          message.fileBytes.isEmpty then .text text (some "text/plain")
      else structured
  | none => structured
where
  strings (values : List String) : Json := .array (values.map .string)
  structured : AdapterInboundPayload :=
    .json (objectOf [("command", always (.string commandName)), ("agent", always (.string message.agent)),
      ("message", always (.ofOption .string message.message)),
      ("text_parts", always (strings message.textParts)), ("json_parts", always (.array message.jsonParts)),
      ("files", always (strings message.files)), ("file_bytes", always (strings message.fileBytes)),
      ("mime", always (strings message.mime)), ("context", always (.ofOption .string message.context)),
      ("task", always (.ofOption .string message.task)),
      ("accepted_output_modes", always (strings message.acceptedOutputModes)),
      ("metadata", always message.metadata.toJson)])

def inboundPayloadForCommand (command : HttpControlCommand) : AdapterInboundPayload :=
  match command with
  | .send message => commandPayloadFromMessage command.asStr message
  | .stream stream => commandPayloadFromMessage command.asStr stream.message
  | .taskGet _ | .taskList _ | .taskWait _ | .taskCancel _ =>
      .json (objectOf [("command", always (.string command.asStr)),
        ("args", always (objectOf command.slots))])

-- `value.map(|text| X::new(text)).transpose()`
def optionalId (kind : IdKind) : Option String → Except MissiveError (Option (Id kind))
  | none => .ok none
  | some value => (Id.new kind value).map some

def HttpAdapter.inboundMessageFromFrame (adapter : HttpAdapter) (frame : HttpInputFrame) :
    Except MissiveError AdapterInboundMessage := do
  let external ← AdapterExternalIdentity.new frame.source.sourceId
  let identity ← adapter.mapIdentity { external with displayName := frame.source.displayName }
  let session ← AdapterSession.new frame.source.resumeName
  let targetAgent ← optionalId .agentAlias (targetAgent frame.command)
  let contextId ← optionalId .contextId (contextIdOf frame.command)
  let messageId ← Id.new .messageId s!"msg/http/{frame.id}"
  let message ← AdapterInboundMessage.new adapter.definition.name messageId identity
    { session with profile := frame.source.profile.or adapter.definition.sessionProfile, targetAgent, contextId }
    (inboundPayloadForCommand frame.command)
  let commanded ← insertStr frame.metadata "missive.http.command" frame.command.asStr
  let metadata ← insertStr commanded "missive.http.frame_id" frame.id
  .ok { message with metadata }

/-- What `accept_http_adapter_request` does with a frame before it writes anything. -/
def inboundMessage (frame : HttpInputFrame) : Except MissiveError AdapterInboundMessage := do
  let definition ← AdapterDefinition.new "http" "http"
  let adapter ← HttpAdapter.new { definition with sessionProfile := frame.source.profile }
  adapter.inboundMessageFromFrame frame

/-! What a passed check gives. -/

theorem id_of_checkId {kind : IdKind} {value : String} (passed : checkId kind value = .ok ()) :
    ∃ id, Id.new kind value = .ok id := by
  unfold checkId at passed
  cases made : Id.new kind value with
  | ok id => exact ⟨id, rfl⟩
  | error error =>
      rw [made] at passed
      contradiction

theorem optionalId_of_check {kind : IdKind} {value : Option String}
    (passed : checkOptionalId kind value = .ok ()) : ∃ id, optionalId kind value = .ok id := by
  cases value with
  | none => exact ⟨none, rfl⟩
  | some value =>
      obtain ⟨id, made⟩ := id_of_checkId passed
      exact ⟨some id, by rw [optionalId, made]; rfl⟩

theorem message_ids {fields : StdioMessageFields} {command : String}
    (valid : fields.validate command = .ok ()) :
    checkId .agentAlias fields.agent = .ok () ∧ checkOptionalId .contextId fields.context = .ok () := by
  unfold StdioMessageFields.validate at valid
  obtain ⟨_, agent, valid⟩ := except_bind_returned valid
  refine ⟨agent, ?_⟩
  split at valid
  · contradiction
  · obtain ⟨_, context, _⟩ := except_bind_returned valid
    exact context

theorem command_ids {command : HttpControlCommand} (valid : command.validate = .ok ()) :
    checkOptionalId .agentAlias (targetAgent command) = .ok () ∧
      checkOptionalId .contextId (contextIdOf command) = .ok () := by
  cases command with
  | send fields => exact message_ids valid
  | stream fields => exact message_ids valid
  | taskGet fields =>
      obtain ⟨_, _, valid⟩ := except_bind_returned valid
      obtain ⟨_, agent, _⟩ := except_bind_returned valid
      exact ⟨agent, rfl⟩
  | taskList fields =>
      obtain ⟨_, agent, valid⟩ := except_bind_returned valid
      obtain ⟨_, context, _⟩ := except_bind_returned valid
      exact ⟨agent, context⟩
  | taskWait fields =>
      obtain ⟨_, _, valid⟩ := except_bind_returned valid
      obtain ⟨_, agent, _⟩ := except_bind_returned valid
      exact ⟨agent, rfl⟩
  | taskCancel fields =>
      obtain ⟨_, _, valid⟩ := except_bind_returned valid
      exact ⟨valid, rfl⟩

theorem frameId_parts {label value : String} (valid : validateFrameId label value = .ok ()) :
    value.isEmpty = false ∧ value.toList.any RustText.isWhitespace = false ∧
      value.toList.any RustText.isControl = false ∧ value.utf8ByteSize ≤ 128 := by
  unfold validateFrameId at valid
  split at valid
  · contradiction
  · rename_i visible
    split at valid
    · contradiction
    · rename_i short
      simp only [Bool.or_eq_true, not_or, Bool.not_eq_true] at visible
      exact ⟨visible.1.1, visible.1.2, visible.2, Nat.le_of_not_gt short⟩

/-- The parts of a frame's check. -/
structure Checked {Command : Type} (format : FrameFormat Command) (frame : InputFrame Command) : Prop where
  id : validateFrameId format.label frame.id = .ok ()
  source : opaqueReason frame.source.sourceId = none
  command : format.checkCommand frame = .ok ()

theorem checked {Command : Type} {format : FrameFormat Command} {frame : InputFrame Command}
    (valid : frame.validate format = .ok ()) : Checked format frame := by
  dsimp only [InputFrame.validate] at valid
  by_cases marked : frame.schemaVersion = format.schemaVersion
  · rw [if_neg (not_not.mpr marked)] at valid
    obtain ⟨_, id, valid⟩ := except_bind_returned valid
    obtain ⟨_, source, valid⟩ := except_bind_returned valid
    have passed : opaqueReason frame.source.sourceId = none := by
      unfold checkExternalIdentity at source
      split at source
      · assumption
      · contradiction
    by_cases blank : (JsonRedaction.trim frame.source.resumeName.toList).isEmpty = true
    · rw [if_pos blank] at valid
      contradiction
    · rw [if_neg blank] at valid
      exact ⟨id, passed, valid⟩
  · rw [if_pos marked] at valid
    contradiction

theorem adapterIdentifier_iff {kind value : String} :
    validateAdapterIdentifier kind value = .ok () ↔ adapterIdentifierReason value = none := by
  unfold validateAdapterIdentifier
  cases adapterIdentifierReason value <;> simp

theorem inserted (metadata : Metadata) (name value : String) (passes : metadataKeyReason name = none) :
    insertStr metadata name value = .ok (metadata.insertValid name (.string value) passes) :=
  metadata.insert_valid name _ passes

end Missive.HttpInbound
