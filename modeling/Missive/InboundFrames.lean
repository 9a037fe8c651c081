import Missive.HttpInbound

/-! The inbound messages of the three adapters. A request that passed its check is mapped in one
way; the adapters differ in the words of the message id and of the metadata, and in their commands. -/
namespace Missive.InboundFrames

open JsonValue Missive.Core JsonObjects StdioCommands ControlFrames BackgroundJobs Effects HttpInbound

/-- What the three mappings do not share. -/
structure InboundFormat (Command : Type) where
  frameFormat : FrameFormat Command
  sourceKind : String
  messageWord : String
  commandKey : String
  frameIdKey : String
  asStr : Command → String
  targetAgent : Command → Option String
  contextId : Command → Option String
  payload : Command → AdapterInboundPayload

def mapIdentity (definition : AdapterDefinition) (sourceKind : String)
    (external : AdapterExternalIdentity) : Except MissiveError AdapterIdentity := do
  let identity ← AdapterIdentity.new definition.name sourceKind external.providerUserId
  .ok { identity with displayName := external.displayName.or identity.displayName }

def InboundFormat.message {Command : Type} (format : InboundFormat Command)
    (definition : AdapterDefinition) (frame : InputFrame Command) :
    Except MissiveError AdapterInboundMessage := do
  let external ← AdapterExternalIdentity.new frame.source.sourceId
  let identity ← mapIdentity definition format.sourceKind
    { external with displayName := frame.source.displayName }
  let session ← AdapterSession.new frame.source.resumeName
  let targetAgent ← optionalId .agentAlias (format.targetAgent frame.command)
  let contextId ← optionalId .contextId (format.contextId frame.command)
  let messageId ← Id.new .messageId (format.messageWord ++ frame.id)
  let message ← AdapterInboundMessage.new definition.name messageId identity
    { session with profile := frame.source.profile.or definition.sessionProfile, targetAgent, contextId }
    (format.payload frame.command)
  let commanded ← insertStr frame.metadata format.commandKey (format.asStr frame.command)
  let metadata ← insertStr commanded format.frameIdKey frame.id
  .ok { message with metadata }

/-! The adapters. -/

def stdioInbound : InboundFormat StdioCommand where
  frameFormat := stdioFormat
  sourceKind := "stdio"
  messageWord := "msg/stdio/"
  commandKey := "missive.stdio.command"
  frameIdKey := "missive.stdio.frame_id"
  asStr := StdioCommand.asStr
  targetAgent := targetAgent
  contextId := contextIdOf
  payload := inboundPayloadForCommand

/-- `StdioAdapter`, of which the mapping reads the definition only. -/
structure StdioAdapter where
  definition : AdapterDefinition

def StdioAdapter.inboundMessageFromFrame (adapter : StdioAdapter) (frame : StdioInputFrame) :
    Except MissiveError AdapterInboundMessage :=
  stdioInbound.message adapter.definition frame

def httpInbound : InboundFormat HttpControlCommand where
  frameFormat := httpFormat
  sourceKind := "http"
  messageWord := "msg/http/"
  commandKey := "missive.http.command"
  frameIdKey := "missive.http.frame_id"
  asStr := StdioCommand.asStr
  targetAgent := targetAgent
  contextId := contextIdOf
  payload := inboundPayloadForCommand

theorem http_message (adapter : HttpAdapter) (frame : HttpInputFrame) :
    adapter.inboundMessageFromFrame frame = httpInbound.message adapter.definition frame := rfl

def fileDropTargetAgent : FileDropCommand → Option String
  | .send message => some message.agent
  | .stream command => some command.message.agent
  | .taskGet command => command.agent
  | .taskList command => command.agent
  | .taskWait command => command.agent
  | .taskCancel command => command.agent
  | .jobStartSend command => some command.message.agent
  | .jobStartStream command => some command.stream.message.agent
  | .jobStartWait command => command.wait.agent
  | .jobList command => command.agent
  | .jobStartReduce _ | .jobShow _ | .jobCancel _ => none

def fileDropContextId : FileDropCommand → Option String
  | .send message => message.context
  | .stream command => command.message.context
  | .taskList command => command.context
  | .jobStartSend command => command.message.context
  | .jobStartStream command => command.stream.message.context
  | .jobStartReduce command => some command.context
  | .jobList command => command.context
  | .taskGet _ | .taskWait _ | .taskCancel _ | .jobStartWait _ | .jobShow _ | .jobCancel _ => none

def fileDropPayload (command : FileDropCommand) : AdapterInboundPayload :=
  match command with
  | .send message => commandPayloadFromMessage command.asStr message
  | .stream stream => commandPayloadFromMessage command.asStr stream.message
  | _ => .json (objectOf [("command", always (.string command.asStr)),
      ("args", always (objectOf command.slots))])

def fileDropInbound : InboundFormat FileDropCommand where
  frameFormat := fileDropFormat
  sourceKind := "file-drop"
  messageWord := "msg/file-drop/"
  commandKey := "missive.file_drop.command"
  frameIdKey := "missive.file_drop.frame_id"
  asStr := FileDropCommand.asStr
  targetAgent := fileDropTargetAgent
  contextId := fileDropContextId
  payload := fileDropPayload

/-- `FileDropAdapter`, of which the mapping reads the definition only. -/
structure FileDropAdapter where
  definition : AdapterDefinition

def FileDropAdapter.inboundMessageFromFile (adapter : FileDropAdapter) (file : FileDropInputFile) :
    Except MissiveError AdapterInboundMessage :=
  fileDropInbound.message adapter.definition file

/-! The words of an adapter pass the checks that the mapping makes of them, and so do the agent and
the context of a command that passed its own check. -/

structure Sound {Command : Type} (format : InboundFormat Command) : Prop where
  sourceKind : adapterIdentifierReason format.sourceKind = none
  commandKey : metadataKeyReason format.commandKey = none
  frameIdKey : metadataKeyReason format.frameIdKey = none
  wordSize : format.messageWord.utf8ByteSize ≤ 128
  wordVisible : format.messageWord.toList.any RustText.isWhitespace = false
  wordPrintable : format.messageWord.toList.any RustText.isControl = false
  commandIds : ∀ frame, format.frameFormat.checkCommand frame = .ok () →
    checkOptionalId .agentAlias (format.targetAgent frame.command) = .ok () ∧
      checkOptionalId .contextId (format.contextId frame.command) = .ok ()

theorem asStdio_ids {Command : Type} {frame : InputFrame Command} {command : StdioCommand}
    (valid : checkAsStdio frame command = .ok ()) :
    checkOptionalId .agentAlias (targetAgent command) = .ok () ∧
      checkOptionalId .contextId (contextIdOf command) = .ok () :=
  command_ids (checked valid).command

theorem stdio_sound : Sound stdioInbound where
  sourceKind := by decide
  commandKey := by decide
  frameIdKey := by decide
  wordSize := by decide
  wordVisible := by decide
  wordPrintable := by decide
  commandIds _ valid := command_ids valid

theorem http_sound : Sound httpInbound where
  sourceKind := by decide
  commandKey := by decide
  frameIdKey := by decide
  wordSize := by decide
  wordVisible := by decide
  wordPrintable := by decide
  commandIds _ valid := asStdio_ids valid

theorem fileDrop_ids (file : FileDropInputFile) (valid : checkFileDrop file = .ok ()) :
    checkOptionalId .agentAlias (fileDropTargetAgent file.command) = .ok () ∧
      checkOptionalId .contextId (fileDropContextId file.command) = .ok () := by
  obtain ⟨schemaVersion, id, source, command, metadata⟩ := file
  cases command with
  | send | stream | taskGet | taskList | taskWait | taskCancel => exact asStdio_ids valid
  | jobStartSend | jobStartStream =>
      obtain ⟨_, passed, _⟩ := except_bind_returned valid
      exact asStdio_ids passed
  | jobStartWait =>
      obtain ⟨_, passed, _⟩ := except_bind_returned valid
      exact ⟨(asStdio_ids passed).1, rfl⟩
  | jobStartReduce =>
      obtain ⟨_, _, valid⟩ := except_bind_returned valid
      obtain ⟨_, context, _⟩ := except_bind_returned valid
      exact ⟨rfl, context⟩
  | jobList =>
      obtain ⟨_, _, valid⟩ := except_bind_returned valid
      obtain ⟨_, _, valid⟩ := except_bind_returned valid
      obtain ⟨_, agent, valid⟩ := except_bind_returned valid
      obtain ⟨_, context, _⟩ := except_bind_returned valid
      exact ⟨agent, context⟩
  | jobShow | jobCancel => exact ⟨rfl, rfl⟩

theorem fileDrop_sound : Sound fileDropInbound where
  sourceKind := by decide
  commandKey := by decide
  frameIdKey := by decide
  wordSize := by decide
  wordVisible := by decide
  wordPrintable := by decide
  commandIds := fileDrop_ids

-- The message id is the frame id behind the adapter's word, and no longer than an id may be.
theorem messageId_made {word label value : String} (size : word.utf8ByteSize ≤ 128)
    (visible : word.toList.any RustText.isWhitespace = false)
    (printable : word.toList.any RustText.isControl = false)
    (valid : validateFrameId label value = .ok ()) :
    ∃ id, Id.new .messageId (word ++ value) = .ok id := by
  obtain ⟨filled, valueVisible, valuePrintable, short⟩ := frameId_parts valid
  have passes : opaqueReason (word ++ value) = none := by
    have nonempty : (word ++ value).isEmpty = false := by
      simp_all
    have fits : ¬ 256 < (word ++ value).utf8ByteSize := by
      rw [String.utf8ByteSize_append]
      omega
    have blanks : (word ++ value).toList.any RustText.isWhitespace = false := by
      rw [String.toList_append, List.any_append, visible, valueVisible, Bool.or_false]
    have controls : (word ++ value).toList.any RustText.isControl = false := by
      rw [String.toList_append, List.any_append, printable, valuePrintable, Bool.or_false]
    rw [opaqueReason, nonempty, if_neg Bool.false_ne_true, if_neg fits, blanks,
      if_neg Bool.false_ne_true, controls, if_neg Bool.false_ne_true]
  have reason : IdKind.reason .messageId (word ++ value) = none := passes
  exact ⟨_, Id.new_text ⟨_, reason⟩⟩

/-- Of a frame that passed its check, an adapter with a valid name refuses the resume name alone. -/
theorem message_iff {Command : Type} {format : InboundFormat Command} (sound : Sound format)
    {definition : AdapterDefinition} (named : adapterIdentifierReason definition.name = none)
    {frame : InputFrame Command} (valid : frame.validate format.frameFormat = .ok ()) :
    (∃ message, format.message definition frame = .ok message) ↔
      adapterIdentifierReason frame.source.resumeName = none := by
  constructor
  · rintro ⟨message, made⟩
    obtain ⟨_, _, made⟩ := except_bind_returned made
    obtain ⟨_, _, made⟩ := except_bind_returned made
    obtain ⟨_, opened, _⟩ := except_bind_returned made
    obtain ⟨_, resumed, _⟩ := except_bind_returned opened
    exact adapterIdentifier_iff.mp resumed
  · intro resumed
    have parts := checked valid
    obtain ⟨agent, context⟩ := sound.commandIds frame parts.command
    obtain ⟨agentId, agentMade⟩ := optionalId_of_check agent
    obtain ⟨contextId, contextMade⟩ := optionalId_of_check context
    obtain ⟨messageId, messageMade⟩ :=
      messageId_made sound.wordSize sound.wordVisible sound.wordPrintable parts.id
    have source : ∀ kind, validateExternalIdentifier kind frame.source.sourceId = .ok () := by
      intro kind
      rw [validateExternalIdentifier, parts.source]
    have name : ∀ kind, validateAdapterIdentifier kind definition.name = .ok () :=
      fun _ => adapterIdentifier_iff.mpr named
    have sourceKind : ∀ kind, validateAdapterIdentifier kind format.sourceKind = .ok () :=
      fun _ => adapterIdentifier_iff.mpr sound.sourceKind
    have session : ∀ kind, validateAdapterIdentifier kind frame.source.resumeName = .ok () :=
      fun _ => adapterIdentifier_iff.mpr resumed
    have command := fun metadata value => inserted metadata format.commandKey value sound.commandKey
    have frameId := fun metadata value => inserted metadata format.frameIdKey value sound.frameIdKey
    simp only [InboundFormat.message, AdapterExternalIdentity.new, source, mapIdentity,
      AdapterIdentity.new, name, sourceKind, AdapterSession.new, session, agentMade, contextMade,
      messageMade, AdapterInboundMessage.new, command, frameId, bind, Except.bind, ne_eq,
      not_true_eq_false, if_false]
    exact ⟨_, rfl⟩

theorem http_identifier (kind : String) : validateAdapterIdentifier kind "http" = .ok () :=
  adapterIdentifier_iff.mpr (by decide)

theorem inboundMessage_mapped (frame : HttpInputFrame) :
    inboundMessage frame =
      httpInbound.message ⟨"http", "http", true, frame.source.profile, .new⟩ frame := by
  simp only [inboundMessage, AdapterDefinition.new, http_identifier, HttpAdapter.new, bind,
    Except.bind, ne_eq, not_true_eq_false, if_false]
  rfl

-- The gateway maps its requests with a definition of its own.
theorem inboundMessage_iff {frame : HttpInputFrame} (valid : frame.validate httpFormat = .ok ()) :
    (∃ message, inboundMessage frame = .ok message) ↔
      adapterIdentifierReason frame.source.resumeName = none := by
  rw [inboundMessage_mapped]
  exact message_iff http_sound http_sound.sourceKind valid

/-- With any definition of a valid name, the three adapters map a request that passed its check
exactly if its resume name is an adapter identifier. -/
theorem validated_frames_map_iff (definition : AdapterDefinition)
    (named : adapterIdentifierReason definition.name = none) :
    (∀ frame : StdioInputFrame, frame.validate stdioFormat = .ok () →
      ((∃ message, (StdioAdapter.mk definition).inboundMessageFromFrame frame = .ok message) ↔
        adapterIdentifierReason frame.source.resumeName = none)) ∧
    (∀ file : FileDropInputFile, file.validate fileDropFormat = .ok () →
      ((∃ message, (FileDropAdapter.mk definition).inboundMessageFromFile file = .ok message) ↔
        adapterIdentifierReason file.source.resumeName = none)) ∧
    (∀ frame : HttpInputFrame, frame.validate httpFormat = .ok () →
      ((∃ message, (HttpAdapter.mk definition).inboundMessageFromFrame frame = .ok message) ↔
        adapterIdentifierReason frame.source.resumeName = none)) :=
  ⟨fun _ valid => message_iff stdio_sound named valid,
    fun _ valid => message_iff fileDrop_sound named valid,
    fun _ valid => message_iff http_sound named valid⟩

def stdioDefinition : AdapterDefinition := ⟨"stdio", "stdio", true, none, .new⟩

def namedFrame (resumeName : String) : StdioInputFrame :=
  ⟨"missive.stdio.v1", "f-1", ⟨"stdio", none, resumeName, none⟩, .taskCancel ⟨"t-8", none⟩, .new⟩

theorem default_session_mapped :
    ∃ message, (StdioAdapter.mk stdioDefinition).inboundMessageFromFrame (namedFrame "default") =
      .ok message :=
  ((validated_frames_map_iff stdioDefinition (by decide)).1 (namedFrame "default") (by decide)).mpr
    (by decide)

/-- A resume name with a blank in it passes the check of the frame and not that of the session. -/
theorem spaced_session_refused :
    ¬ ∀ definition : AdapterDefinition, adapterIdentifierReason definition.name = none →
      adapterIdentifierReason definition.kind = none →
      (∀ frame : StdioInputFrame, frame.validate stdioFormat = .ok () →
        ∃ message, (StdioAdapter.mk definition).inboundMessageFromFrame frame = .ok message) ∧
      (∀ file : FileDropInputFile, file.validate fileDropFormat = .ok () →
        ∃ message, (FileDropAdapter.mk definition).inboundMessageFromFile file = .ok message) ∧
      (∀ frame : HttpInputFrame, frame.validate httpFormat = .ok () →
        ∃ message, (HttpAdapter.mk definition).inboundMessageFromFrame frame = .ok message) := by
  intro maps
  have named : adapterIdentifierReason stdioDefinition.name = none := by decide
  have valid : (namedFrame "My work").validate stdioFormat = .ok () := by decide
  have mapped := (maps stdioDefinition named named).1 (namedFrame "My work") valid
  have resumed := (message_iff stdio_sound named valid).mp mapped
  exact absurd resumed (by decide)

end Missive.InboundFrames
