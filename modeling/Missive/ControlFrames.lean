import Missive.StdioCommands

/-! Control frames. The `stdio`, `http` and `file-drop` adapters read one JSON object for each
request: the frame's own fields and the fields of its command stand side by side in it. -/
namespace Missive.ControlFrames

open JsonValue KeyedTable Missive.Core JsonObjects StdioCommands

structure FrameSource where
  sourceId : String
  displayName : Option String
  resumeName : String
  profile : Option String

structure InputFrame (Command : Type) where
  schemaVersion : String
  id : String
  source : FrameSource
  command : Command
  metadata : Metadata

-- What the three adapters do not share.
structure FrameFormat (Command : Type) where
  label : String
  schemaVersion : String
  sourceId : String
  failure : String
  help : String
  slots : Command → Slots
  decode : Fields → Option Command
  checkCommand : InputFrame Command → Check

section Format

variable {Command : Type} (format : FrameFormat Command)

/-! Checks. -/

-- `AdapterExternalIdentity::new` for its error alone.
def checkExternalIdentity (value : String) : Check :=
  match opaqueReason value with
  | none => .ok ()
  | some reason =>
      .error ((MissiveError.validation s!"invalid adapter provider user id: {reason}").withHelp
        "Use a non-empty adapter identity without whitespace or control characters.")

def validateFrameId (label value : String) : Check :=
  if value.isEmpty || value.toList.any RustText.isWhitespace || value.toList.any RustText.isControl then
    reject s!"{label} id must be non-empty and cannot contain whitespace or control characters"
  else if value.utf8ByteSize > 128 then reject s!"{label} id cannot exceed 128 bytes"
  else .ok ()

def InputFrame.validate (frame : InputFrame Command) : Check := do
  if frame.schemaVersion ≠ format.schemaVersion then
    throw ((MissiveError.validation
      s!"unsupported {format.label} schema_version {debug frame.schemaVersion}").withHelp
      s!"Use schema_version {debug format.schemaVersion}.")
  validateFrameId format.label frame.id
  checkExternalIdentity frame.source.sourceId
  if (JsonRedaction.trim frame.source.resumeName.toList).isEmpty then
    reject s!"{format.label} source.resume_name cannot be empty"
  format.checkCommand frame

/-! The JSON of a frame. -/

def FrameSource.toValue (source : FrameSource) : Json :=
  objectOf [("source_id", always (.string source.sourceId)),
    ("display_name", skipNone .string source.displayName),
    ("resume_name", always (.string source.resumeName)),
    ("profile", skipNone .string source.profile)]

def InputFrame.slots (frame : InputFrame Command) : Slots :=
  [("schema_version", always (.string frame.schemaVersion)), ("id", always (.string frame.id)),
    ("source", always frame.source.toValue)] ++ format.slots frame.command ++
    [("metadata", always frame.metadata.toJson)]

def InputFrame.toValue (frame : InputFrame Command) : Json := objectOf (frame.slots format)

def defaultSource : FrameSource := ⟨format.sourceId, none, "default", none⟩

-- In an array every field up to the last without a default has its place.
def readSource (value : Json) : Option FrameSource := do
  let fields ← structFields ["source_id", "display_name", "resume_name", "profile"] 4 value
  let sourceId ← defaulted Json.asStr format.sourceId (fields "source_id")
  let displayName ← optional Json.asStr (fields "display_name")
  let resumeName ← defaulted Json.asStr "default" (fields "resume_name")
  let profile ← optional Json.asStr (fields "profile")
  some ⟨sourceId, displayName, resumeName, profile⟩

-- The frame's own fields are consumed first; the command sees the others.
def decodeFields (fields : Fields) : Option (InputFrame Command) := do
  let schemaVersion ← defaulted Json.asStr format.schemaVersion (fields "schema_version")
  let id ← required Json.asStr (fields "id")
  let source ← defaulted (readSource format) (defaultSource format) (fields "source")
  let metadata ← defaulted readMetadata .new (fields "metadata")
  let command ← format.decode (hide frameKeys fields)
  some ⟨schemaVersion, id, source, command, metadata⟩

def decodeFrame : Json → Option (InputFrame Command)
  | .object fields => decodeFields format fun name => fields.lookup name
  | _ => none

def parseFrame (value : Json) : Except MissiveError (InputFrame Command) :=
  match decodeFrame format value with
  | some frame => .ok frame
  | none => .error ((MissiveError.validation format.failure).withHelp format.help)

def fromValue (value : Json) : Except MissiveError (InputFrame Command) := do
  let frame ← parseFrame format value
  frame.validate format
  .ok frame

end Format

/-! The three adapters. -/

abbrev StdioInputFrame := InputFrame StdioCommand

def stdioFormat : FrameFormat StdioCommand where
  label := "stdio frame"
  schemaVersion := "missive.stdio.v1"
  sourceId := "stdio"
  failure := "failed to parse stdio input frame"
  help := "Send an object with schema_version, id, command, and command fields."
  slots := StdioCommand.slots
  decode := StdioCommand.decode
  checkCommand frame := frame.command.validate

-- `to_stdio_frame_with_command(command)?.validate()`
def checkAsStdio {Command : Type} (frame : InputFrame Command) (command : StdioCommand) : Check :=
  InputFrame.validate stdioFormat
    ⟨stdioFormat.schemaVersion, frame.id, frame.source, command, frame.metadata⟩

abbrev HttpControlCommand := StdioCommand

abbrev HttpInputFrame := InputFrame HttpControlCommand

def httpFormat : FrameFormat HttpControlCommand where
  label := "HTTP adapter"
  schemaVersion := "missive.http.v1"
  sourceId := "http"
  failure := "failed to parse HTTP adapter request"
  help := "Use schema_version, id, command, and command-specific fields."
  slots := StdioCommand.slots
  decode := StdioCommand.decode
  checkCommand frame := checkAsStdio frame frame.command

structure FileDropJobOptions where
  maxAttempts : UInt32
  attach : Bool
  attachTimeout : Option String
  cancelRemoteOnCancel : Bool

structure FileDropJobStartSendCommand where
  message : StdioMessageFields
  options : FileDropJobOptions

structure FileDropJobStartStreamCommand where
  stream : StdioStreamCommand
  options : FileDropJobOptions

structure FileDropJobStartWaitCommand where
  wait : StdioTaskWaitCommand
  options : FileDropJobOptions

structure FileDropJobStartReduceCommand where
  group : String
  context : String
  strategy : String
  options : FileDropJobOptions

structure FileDropJobListCommand where
  kind : Option String
  state : Option String
  agent : Option String
  context : Option String
  limit : Option UInt64

structure FileDropJobShowCommand where
  jobId : String

structure FileDropJobCancelCommand where
  jobId : String
  remote : Bool

inductive FileDropCommand where
  | send (message : StdioMessageFields)
  | stream (command : StdioStreamCommand)
  | taskGet (command : StdioTaskGetCommand)
  | taskList (command : StdioTaskListCommand)
  | taskWait (command : StdioTaskWaitCommand)
  | taskCancel (command : StdioTaskCancelCommand)
  | jobStartSend (command : FileDropJobStartSendCommand)
  | jobStartStream (command : FileDropJobStartStreamCommand)
  | jobStartWait (command : FileDropJobStartWaitCommand)
  | jobStartReduce (command : FileDropJobStartReduceCommand)
  | jobList (command : FileDropJobListCommand)
  | jobShow (command : FileDropJobShowCommand)
  | jobCancel (command : FileDropJobCancelCommand)

def FileDropCommand.asStr : FileDropCommand → String
  | .send _ => "send"
  | .stream _ => "stream"
  | .taskGet _ => "task_get"
  | .taskList _ => "task_list"
  | .taskWait _ => "task_wait"
  | .taskCancel _ => "task_cancel"
  | .jobStartSend _ => "job_start_send"
  | .jobStartStream _ => "job_start_stream"
  | .jobStartWait _ => "job_start_wait"
  | .jobStartReduce _ => "job_start_reduce"
  | .jobList _ => "job_list"
  | .jobShow _ => "job_show"
  | .jobCancel _ => "job_cancel"

def validateShort (field value : String) : Check :=
  if value.isEmpty then reject s!"file-drop field {field} cannot be empty"
  else if value.utf8ByteSize > 4096 || value.toList.any RustText.isControl then
    reject s!"file-drop field {field} contains an invalid or too-long value"
  else .ok ()

def validateDropShort (field : String) : Option String → Check
  | none => .ok ()
  | some value => validateShort field value

def validateJobOptions (options : FileDropJobOptions) : Check := do
  if options.maxAttempts = 0 then
    reject "file-drop job option max_attempts must be greater than zero"
  validateDropShort "attach_timeout" options.attachTimeout

def FileDropCommand.toStdioCommand : FileDropCommand → Option StdioCommand
  | .send fields => some (.send fields)
  | .stream fields => some (.stream fields)
  | .taskGet fields => some (.taskGet fields)
  | .taskList fields => some (.taskList fields)
  | .taskWait fields => some (.taskWait fields)
  | .taskCancel fields => some (.taskCancel fields)
  | _ => none

-- The commands that are no stdio commands.
def validateFileDropCommand (frame : InputFrame FileDropCommand) : Check :=
  match frame.command with
  | .jobStartSend fields => do
      checkAsStdio frame (.send fields.message)
      validateJobOptions fields.options
  | .jobStartStream fields => do
      checkAsStdio frame (.stream fields.stream)
      validateJobOptions fields.options
  | .jobStartWait fields => do
      checkAsStdio frame (.taskWait fields.wait)
      validateJobOptions fields.options
  | .jobStartReduce fields => do
      checkId .groupName fields.group
      checkId .contextId fields.context
      validateShort "strategy" fields.strategy
      validateJobOptions fields.options
  | .jobList fields => do
      validateDropShort "kind" fields.kind
      validateDropShort "state" fields.state
      checkOptionalId .agentAlias fields.agent
      checkOptionalId .contextId fields.context
      if fields.limit = some 0 then reject "file-drop job_list limit must be greater than zero"
  | .jobShow fields => validateShort "job_id" fields.jobId
  | .jobCancel fields => validateShort "job_id" fields.jobId
  -- `unreachable!`: the stdio commands are checked before
  | _ => .ok ()

def checkFileDrop (frame : InputFrame FileDropCommand) : Check :=
  match frame.command.toStdioCommand with
  | some command => checkAsStdio frame command
  | none => validateFileDropCommand frame

def FileDropJobOptions.slots (options : FileDropJobOptions) : Slots :=
  [("max_attempts", always (.nat options.maxAttempts.toNat)),
    ("attach", always (.bool options.attach)),
    ("attach_timeout", skipNone .string options.attachTimeout),
    ("cancel_remote_on_cancel", always (.bool options.cancelRemoteOnCancel))]

-- `#[serde(default)] options`
def optionsSlot (options : FileDropJobOptions) : Slots :=
  [("options", always (objectOf options.slots))]

def FileDropCommand.slots (command : FileDropCommand) : Slots :=
  tagged command.asStr <| match command with
    | .send fields => fields.slots
    | .stream fields => fields.slots
    | .taskGet fields => fields.slots
    | .taskList fields => fields.slots
    | .taskWait fields => fields.slots
    | .taskCancel fields => fields.slots
    | .jobStartSend fields => fields.message.slots ++ optionsSlot fields.options
    | .jobStartStream fields => fields.stream.slots ++ optionsSlot fields.options
    | .jobStartWait fields => fields.wait.slots ++ optionsSlot fields.options
    | .jobStartReduce fields =>
        [("group", always (.string fields.group)), ("context", always (.string fields.context)),
          ("strategy", always (.string fields.strategy))] ++ optionsSlot fields.options
    | .jobList fields =>
        [("kind", skipNone .string fields.kind), ("state", skipNone .string fields.state),
          ("agent", skipNone .string fields.agent), ("context", skipNone .string fields.context),
          ("limit", skipNone (fun limit => .nat limit.toNat) fields.limit)]
    | .jobShow fields => [("job_id", always (.string fields.jobId))]
    | .jobCancel fields =>
        [("job_id", always (.string fields.jobId)), ("remote", always (.bool fields.remote))]

def readJobOptions (value : Json) : Option FileDropJobOptions := do
  let fields ←
    structFields ["max_attempts", "attach", "attach_timeout", "cancel_remote_on_cancel"] 3 value
  let maxAttempts ← defaulted readU32 1 (fields "max_attempts")
  let attach ← defaulted Json.asBool false (fields "attach")
  let attachTimeout ← optional Json.asStr (fields "attach_timeout")
  let cancelRemoteOnCancel ← defaulted Json.asBool false (fields "cancel_remote_on_cancel")
  some ⟨maxAttempts, attach, attachTimeout, cancelRemoteOnCancel⟩

def decodeOptions (fields : Fields) : Option FileDropJobOptions :=
  defaulted readJobOptions ⟨1, false, none, false⟩ (fields "options")

def decodeJobStartSend (fields : Fields) : Option FileDropJobStartSendCommand := do
  let options ← decodeOptions fields
  let message ← StdioMessageFields.decode fields
  some ⟨message, options⟩

def decodeJobStartStream (fields : Fields) : Option FileDropJobStartStreamCommand := do
  let options ← decodeOptions fields
  let stream ← StdioStreamCommand.decode fields
  some ⟨stream, options⟩

def decodeJobStartWait (fields : Fields) : Option FileDropJobStartWaitCommand := do
  let options ← decodeOptions fields
  let wait ← StdioTaskWaitCommand.decode fields
  some ⟨wait, options⟩

def decodeJobStartReduce (fields : Fields) : Option FileDropJobStartReduceCommand := do
  let group ← required Json.asStr (fields "group")
  let context ← required Json.asStr (fields "context")
  let strategy ← defaulted Json.asStr "summarise" (fields "strategy")
  let options ← decodeOptions fields
  some ⟨group, context, strategy, options⟩

def decodeJobList (fields : Fields) : Option FileDropJobListCommand := do
  let kind ← optional Json.asStr (fields "kind")
  let state ← optional Json.asStr (fields "state")
  let agent ← optional Json.asStr (fields "agent")
  let context ← optional Json.asStr (fields "context")
  let limit ← optional readU64 (fields "limit")
  some ⟨kind, state, agent, context, limit⟩

def decodeJobShow (fields : Fields) : Option FileDropJobShowCommand := do
  let jobId ← required Json.asStr (fields "job_id")
  some ⟨jobId⟩

def decodeJobCancel (fields : Fields) : Option FileDropJobCancelCommand := do
  let jobId ← required Json.asStr (fields "job_id")
  let remote ← defaulted Json.asBool false (fields "remote")
  some ⟨jobId, remote⟩

def FileDropCommand.variants : List (String × (Fields → Option FileDropCommand)) :=
  [("send", fun fields => (StdioMessageFields.decode fields).map .send),
    ("stream", fun fields => (StdioStreamCommand.decode fields).map .stream),
    ("task_get", fun fields => (StdioTaskGetCommand.decode fields).map .taskGet),
    ("task_list", fun fields => (StdioTaskListCommand.decode fields).map .taskList),
    ("task_wait", fun fields => (StdioTaskWaitCommand.decode fields).map .taskWait),
    ("task_cancel", fun fields => (StdioTaskCancelCommand.decode fields).map .taskCancel),
    ("job_start_send", fun fields => (decodeJobStartSend fields).map .jobStartSend),
    ("job_start_stream", fun fields => (decodeJobStartStream fields).map .jobStartStream),
    ("job_start_wait", fun fields => (decodeJobStartWait fields).map .jobStartWait),
    ("job_start_reduce", fun fields => (decodeJobStartReduce fields).map .jobStartReduce),
    ("job_list", fun fields => (decodeJobList fields).map .jobList),
    ("job_show", fun fields => (decodeJobShow fields).map .jobShow),
    ("job_cancel", fun fields => (decodeJobCancel fields).map .jobCancel)]

abbrev FileDropInputFile := InputFrame FileDropCommand

def fileDropFormat : FrameFormat FileDropCommand where
  label := "file-drop"
  schemaVersion := "missive.file_drop.v1"
  sourceId := "file-drop"
  failure := "failed to parse file-drop request"
  help := "Use schema_version, id, command, and command-specific fields."
  slots := FileDropCommand.slots
  decode := readVariant FileDropCommand.variants
  checkCommand := checkFileDrop

/-! What a frame is read back as. -/

@[simp] theorem readMetadata_toJson (metadata : Metadata) :
    readMetadata metadata.toJson = some metadata := by
  have entries : metadata.entries.rows.foldl Table.put Table.empty = metadata.entries :=
    metadata.entries.foldl_put_rows
  have valid := metadata.valid
  cases metadata
  simp_all [readMetadata, Metadata.toJson]

@[simp] theorem readSource_toValue {Command : Type} (format : FrameFormat Command)
    (source : FrameSource) : readSource format source.toValue = some source := by
  simp [readSource, FrameSource.toValue, structFields_objectOf, slot, always]

@[simp] theorem readJobOptions_slots (options : FileDropJobOptions) :
    readJobOptions (objectOf options.slots) = some options := by
  simp [readJobOptions, structFields_objectOf, FileDropJobOptions.slots, slot, always]

section RoundTrip

variable {Command : Type} {format : FrameFormat Command}

/-- The frame's names are free for the frame, except that a command may have a source and metadata
of its own, and the command is read back as `plain` gives it. -/
structure Lawful (format : FrameFormat Command) (plain : Command → Command)
    (ownSource : Command → Option String) : Prop where
  names : ∀ command, FrameSlots (format.slots command) (ownSource command)
  decode : ∀ command fields, Shows frameKeys fields (format.slots command) →
    format.decode fields = some (plain command)

variable {plain : Command → Command} {ownSource : Command → Option String}

theorem slots_shown (frame : InputFrame Command) :
    Shows frameKeys (hide frameKeys fun name => (frame.toValue format).get name)
      (format.slots frame.command) := by
  apply shows_hidden
  intro name member visible
  have away : ∀ other ∈ frameKeys, other ≠ name := fun other key same => visible (same ▸ key)
  have apart := And.intro (away "schema_version" (by decide)) (And.intro (away "id" (by decide))
    (And.intro (away "source" (by decide)) (away "metadata" (by decide))))
  rw [InputFrame.toValue, get_objectOf, InputFrame.slots, slot_append, slot_append]
  simp [slot, apart]

/-- A frame is read back with its command plain; a command's own source stands in the place of the
frame's, and is no source of a frame. -/
theorem decodeFrame_toValue (lawful : Lawful format plain ownSource) (frame : InputFrame Command) :
    decodeFrame format (frame.toValue format) =
      if ownSource frame.command = none then some { frame with command := plain frame.command }
      else none := by
  have fields : ∀ name, (frame.toValue format).get name = slot (frame.slots format) name :=
    get_objectOf _
  have version : (frame.toValue format).get "schema_version" = some (.string frame.schemaVersion) := by
    rw [fields, InputFrame.slots, slot_append, slot_append, (lawful.names _).version]
    simp [slot, always]
  have id : (frame.toValue format).get "id" = some (.string frame.id) := by
    rw [fields, InputFrame.slots, slot_append, slot_append, (lawful.names _).id]
    simp [slot, always]
  have source : (frame.toValue format).get "source" =
      (skipNone .string (ownSource frame.command)).or (some frame.source.toValue) := by
    rw [fields, InputFrame.slots, slot_append, slot_append, (lawful.names _).source]
    simp [slot, always]
  have metadata : (frame.toValue format).get "metadata" = some frame.metadata.toJson := by
    rw [fields, InputFrame.slots, slot_append]
    simp [slot, always]
  have command := lawful.decode frame.command _ (slots_shown frame)
  change decodeFields format (fun name => (frame.toValue format).get name) = _
  simp only [decodeFields, version, id, source, metadata, command]
  cases ownSource frame.command with
  | none => simp [skipNone, Json.asStr, defaulted]
  | some value => simp [skipNone, defaulted, readSource, structFields]

theorem fromValue_iff {value : Json} {frame : InputFrame Command} :
    fromValue format value = .ok frame ↔
      decodeFrame format value = some frame ∧ frame.validate format = .ok () := by
  unfold fromValue parseFrame
  cases decodeFrame format value with
  | none => simp [bind, Except.bind]
  | some other =>
      cases checked : other.validate format with
      | error failure =>
          constructor
          · exact fun failed => by simp [checked, bind, Except.bind] at failed
          · rintro ⟨same, valid⟩
            rw [← Option.some.inj same, checked] at valid
            cases valid
      | ok done =>
          simp only [checked, bind, Except.bind, Except.ok.injEq, Option.some.injEq]
          exact ⟨fun same => ⟨same, same ▸ checked⟩, fun both => both.1⟩

theorem fromValue_toValue (lawful : Lawful format plain ownSource) (frame : InputFrame Command)
    (valid : frame.validate format = .ok ()) :
    fromValue format (frame.toValue format) = .ok frame ↔
      plain frame.command = frame.command ∧ ownSource frame.command = none := by
  rw [fromValue_iff, decodeFrame_toValue lawful]
  by_cases free : ownSource frame.command = none
  · cases frame
    simp_all
  · simp [free]

end RoundTrip

theorem stdio_lawful : Lawful stdioFormat StdioCommand.plain StdioCommand.ownSource where
  names := StdioCommand.frameSlots
  decode := fun _ _ shown => StdioCommand.decode_shown shown

theorem http_lawful : Lawful httpFormat StdioCommand.plain StdioCommand.ownSource where
  names := StdioCommand.frameSlots
  decode := fun _ _ shown => StdioCommand.decode_shown shown

/-! The file-drop commands. -/

def FileDropCommand.plain : FileDropCommand → FileDropCommand
  | .send fields => .send fields.plain
  | .stream fields => .stream fields.plain
  | .taskGet fields => .taskGet fields.plain
  | .taskList fields => .taskList fields.plain
  | .jobStartSend fields => .jobStartSend { fields with message := fields.message.plain }
  | .jobStartStream fields => .jobStartStream { fields with stream := fields.stream.plain }
  | command => command

def FileDropCommand.ownSource : FileDropCommand → Option String
  | .taskGet fields => fields.source
  | .taskList fields => fields.source
  | _ => none

/-- The command has no metadata of its own and no source of its own. -/
def FileDropCommand.Bare : FileDropCommand → Prop
  | .send fields => fields.metadata = .new
  | .stream fields => fields.message.metadata = .new
  | .taskGet fields => fields.source = none
  | .taskList fields => fields.source = none
  | .jobStartSend fields => fields.message.metadata = .new
  | .jobStartStream fields => fields.stream.message.metadata = .new
  | _ => True

theorem FileDropCommand.bare_iff (command : FileDropCommand) :
    command.Bare ↔ command.plain = command ∧ command.ownSource = none := by
  cases command with
  | send fields => simp [Bare, plain, ownSource, fields.plain_eq_self]
  | stream fields => simp [Bare, plain, ownSource, fields.plain_eq_self]
  | taskGet fields =>
      cases fields
      simp [Bare, plain, ownSource, StdioTaskGetCommand.plain, eq_comm]
  | taskList fields =>
      cases fields
      simp [Bare, plain, ownSource, StdioTaskListCommand.plain, eq_comm]
  | jobStartSend fields =>
      rw [Bare, ← StdioMessageFields.plain_eq_self]
      cases fields
      simp [plain, ownSource]
  | jobStartStream fields =>
      rw [Bare, ← StdioStreamCommand.plain_eq_self]
      cases fields
      simp [plain, ownSource]
  | _ => simp [Bare, plain, ownSource]

theorem optionsSlot_names (options : FileDropJobOptions) : FrameSlots (optionsSlot options) none :=
  ⟨by simp [optionsSlot, slot], by simp [optionsSlot, slot], by simp [optionsSlot, slot, skipNone]⟩

theorem FileDropCommand.frameSlots (command : FileDropCommand) :
    FrameSlots command.slots command.ownSource := by
  cases command with
  | send fields => exact StdioCommand.frameSlots (.send fields)
  | stream fields => exact StdioCommand.frameSlots (.stream fields)
  | taskGet fields => exact StdioCommand.frameSlots (.taskGet fields)
  | taskList fields => exact StdioCommand.frameSlots (.taskList fields)
  | taskWait fields => exact StdioCommand.frameSlots (.taskWait fields)
  | taskCancel fields => exact StdioCommand.frameSlots (.taskCancel fields)
  | jobStartSend fields =>
      exact (fields.message.frameSlots.append (optionsSlot_names fields.options)).tagged _
  | jobStartStream fields =>
      exact (fields.stream.frameSlots.append (optionsSlot_names fields.options)).tagged _
  | jobStartWait fields =>
      exact (fields.wait.frameSlots.append (optionsSlot_names fields.options)).tagged _
  | _ =>
      constructor <;> simp [slots, tagged, optionsSlot, slot, ownSource, skipNone]

section Reading

variable {fields : Fields}

theorem decodeOptions_shown {options : FileDropJobOptions}
    (shown : Shows frameKeys fields (optionsSlot options)) : decodeOptions fields = some options := by
  simp only [Shows] at shown
  simp [decodeOptions, shown, optionsSlot, slot, frameKeys, always, defaulted]

theorem FileDropCommand.decode_shown {command : FileDropCommand}
    (shown : Shows frameKeys fields command.slots) :
    readVariant variants fields = some command.plain := by
  cases command with
  | send command =>
      exact readVariant_tagged shown (by simp [StdioMessageFields.slots]) rfl fun inner => by
        rw [StdioMessageFields.decode_shown inner]
        rfl
  | stream command =>
      exact readVariant_tagged shown (by simp [StdioStreamCommand.slots, StdioMessageFields.slots])
        rfl fun inner => by
          rw [StdioStreamCommand.decode_shown inner]
          rfl
  | taskGet command =>
      exact readVariant_tagged shown (by simp [StdioTaskGetCommand.slots]) rfl fun inner => by
        rw [StdioTaskGetCommand.decode_shown inner]
        rfl
  | taskList command =>
      exact readVariant_tagged shown (by simp [StdioTaskListCommand.slots]) rfl fun inner => by
        rw [StdioTaskListCommand.decode_shown inner]
        rfl
  | taskWait command =>
      exact readVariant_tagged shown (by simp [StdioTaskWaitCommand.slots]) rfl fun inner => by
        rw [StdioTaskWaitCommand.decode_shown inner]
        rfl
  | taskCancel command =>
      exact readVariant_tagged shown (by simp [StdioTaskCancelCommand.slots]) rfl fun inner => by
        rw [StdioTaskCancelCommand.decode_shown inner]
        rfl
  | jobStartSend command =>
      exact readVariant_tagged shown (by simp [StdioMessageFields.slots, optionsSlot]) rfl fun inner => by
        have message := StdioMessageFields.decode_shown
          (inner.left (by simp [StdioMessageFields.slots, optionsSlot]))
        have options := decodeOptions_shown
          (inner.right (by simp [StdioMessageFields.slots, optionsSlot]))
        simp [decodeJobStartSend, message, options, plain]
  | jobStartStream command =>
      have names : command.stream.slots.map Prod.fst =
          command.stream.message.slots.map Prod.fst ++ ["force"] := by
        simp [StdioStreamCommand.slots]
      exact readVariant_tagged shown
        (by simp [StdioStreamCommand.slots, StdioMessageFields.slots, optionsSlot]) rfl fun inner => by
          have stream := StdioStreamCommand.decode_shown
            (inner.left (by simp [names, StdioMessageFields.slots, optionsSlot]))
          have options := decodeOptions_shown
            (inner.right (by simp [names, StdioMessageFields.slots, optionsSlot]))
          simp [decodeJobStartStream, stream, options, plain]
  | jobStartWait command =>
      exact readVariant_tagged shown (by simp [StdioTaskWaitCommand.slots, optionsSlot]) rfl fun inner => by
        have wait := StdioTaskWaitCommand.decode_shown
          (inner.left (by simp [StdioTaskWaitCommand.slots, optionsSlot]))
        have options := decodeOptions_shown
          (inner.right (by simp [StdioTaskWaitCommand.slots, optionsSlot]))
        simp [decodeJobStartWait, wait, options, plain]
  | jobStartReduce command =>
      exact readVariant_tagged shown (by simp [optionsSlot]) rfl fun inner => by
        have options := decodeOptions_shown (inner.right (by simp [optionsSlot]))
        simp only [Shows] at inner
        simp [decodeJobStartReduce, options, inner, plain, slot, optionsSlot, frameKeys, always]
  | jobList command =>
      exact readVariant_tagged shown (by simp) rfl fun inner => by
        simp only [Shows] at inner
        simp [decodeJobList, inner, plain, slot, frameKeys]
  | jobShow command =>
      exact readVariant_tagged shown (by simp) rfl fun inner => by
        simp only [Shows] at inner
        simp [decodeJobShow, inner, plain, slot, frameKeys, always]
  | jobCancel command =>
      exact readVariant_tagged shown (by simp) rfl fun inner => by
        simp only [Shows] at inner
        simp [decodeJobCancel, inner, plain, slot, frameKeys, always]

end Reading

theorem fileDrop_lawful : Lawful fileDropFormat FileDropCommand.plain FileDropCommand.ownSource where
  names := FileDropCommand.frameSlots
  decode := fun _ _ shown => FileDropCommand.decode_shown shown

inductive ControlFrame where
  | stdio (frame : StdioInputFrame)
  | http (frame : HttpInputFrame)
  | fileDrop (frame : FileDropInputFile)

def ControlFrame.validate : ControlFrame → Check
  | .stdio frame => frame.validate stdioFormat
  | .http frame => frame.validate httpFormat
  | .fileDrop frame => frame.validate fileDropFormat

/-- `from_value` of the frame's own JSON gives the frame. -/
def ControlFrame.ReadsBack : ControlFrame → Prop
  | .stdio frame => fromValue stdioFormat (frame.toValue stdioFormat) = .ok frame
  | .http frame => fromValue httpFormat (frame.toValue httpFormat) = .ok frame
  | .fileDrop frame => fromValue fileDropFormat (frame.toValue fileDropFormat) = .ok frame

def ControlFrame.Bare : ControlFrame → Prop
  | .stdio frame => frame.command.Bare
  | .http frame => frame.command.Bare
  | .fileDrop frame => frame.command.Bare

/-- A valid frame of any adapter is read back from its own JSON exactly when its command has no
metadata and no source of its own. -/
theorem valid_frame_reads_back_iff (frame : ControlFrame) (valid : frame.validate = .ok ()) :
    frame.ReadsBack ↔ frame.Bare := by
  cases frame with
  | stdio frame =>
      exact (fromValue_toValue stdio_lawful frame valid).trans (StdioCommand.bare_iff _).symm
  | http frame =>
      exact (fromValue_toValue http_lawful frame valid).trans (StdioCommand.bare_iff _).symm
  | fileDrop frame =>
      exact (fromValue_toValue fileDrop_lawful frame valid).trans (FileDropCommand.bare_iff _).symm

def cancelFrame : StdioInputFrame :=
  ⟨"missive.stdio.v1", "req-7", ⟨"agent-42", none, "default", none⟩,
    .taskCancel ⟨"task-7", some "echo"⟩, .new⟩

theorem cancelFrame_reads_back : (ControlFrame.stdio cancelFrame).ReadsBack :=
  (valid_frame_reads_back_iff (.stdio cancelFrame) (by decide)).mpr trivial

-- A send command with request metadata.
def tracedFrame : StdioInputFrame :=
  ⟨"missive.stdio.v1", "req-8", ⟨"agent-42", none, "default", none⟩,
    .send ⟨"echo", some "hello", [], [], [], [], [],
      Metadata.new.insertValid "trace" (.string "t-8") (by decide), none, none, []⟩, .new⟩

theorem tracedFrame_not_read_back :
    (ControlFrame.stdio tracedFrame).validate = .ok () ∧
      ¬ (ControlFrame.stdio tracedFrame).ReadsBack := by
  have valid : tracedFrame.validate stdioFormat = .ok () := by decide
  refine ⟨valid, fun read => ?_⟩
  have plain := ((fromValue_toValue stdio_lawful tracedFrame valid).mp read).1
  have own := (StdioMessageFields.plain_eq_self _).mp (StdioCommand.send.inj plain)
  have entries := congrArg (fun metadata => metadata.entries.rows.length) own
  exact absurd entries (by decide)

end Missive.ControlFrames
