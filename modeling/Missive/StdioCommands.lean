import Missive.JsonObjects
import Missive.JsonRedaction

/-! The commands of the `stdio` adapter, which the `http` and `file-drop` adapters share: their
checks, and their fields as `serde` writes and reads them. -/
namespace Missive.StdioCommands

open JsonValue KeyedTable Missive.Core JsonObjects

structure StdioMessageFields where
  agent : String
  message : Option String
  textParts : List String
  jsonParts : List Json
  files : List String
  fileBytes : List String
  mime : List String
  metadata : Metadata
  context : Option String
  task : Option String
  acceptedOutputModes : List String

structure StdioStreamCommand where
  message : StdioMessageFields
  force : Bool

structure StdioTaskGetCommand where
  taskId : String
  agent : Option String
  remote : Bool
  source : Option String
  historyLength : Option Int32

structure StdioTaskListCommand where
  agent : Option String
  context : Option String
  state : Option String
  updatedAfter : Option String
  source : Option String
  remote : Bool
  pageSize : Option Int32
  pageToken : Option String
  historyLength : Option Int32
  includeArtifacts : Bool

structure StdioTaskWaitCommand where
  taskId : String
  agent : Option String
  localOnly : Bool
  interval : Option String
  historyLength : Option Int32

structure StdioTaskCancelCommand where
  taskId : String
  agent : Option String

inductive StdioCommand where
  | send (message : StdioMessageFields)
  | stream (command : StdioStreamCommand)
  | taskGet (command : StdioTaskGetCommand)
  | taskList (command : StdioTaskListCommand)
  | taskWait (command : StdioTaskWaitCommand)
  | taskCancel (command : StdioTaskCancelCommand)

def StdioCommand.asStr : StdioCommand → String
  | .send _ => "send"
  | .stream _ => "stream"
  | .taskGet _ => "task_get"
  | .taskList _ => "task_list"
  | .taskWait _ => "task_wait"
  | .taskCancel _ => "task_cancel"

/-! The checks. -/

abbrev Check := Except MissiveError Unit

def reject (detail : String) : Check := .error (MissiveError.validation detail)

-- `X::new(value)?` for its error alone.
def checkId (kind : IdKind) (value : String) : Check := (Id.new kind value).map fun _ => ()

def checkOptionalId (kind : IdKind) : Option String → Check
  | none => .ok ()
  | some value => checkId kind value

def validateOptionalShort (field : String) : Option String → Check
  | none => .ok ()
  | some value =>
      if value.isEmpty then reject s!"stdio frame field {field} cannot contain empty values"
      else if value.utf8ByteSize > 4096 || value.toList.any RustText.isControl then
        reject s!"stdio frame field {field} contains an invalid or too-long value"
      else .ok ()

def validateShortValues (field : String) (values : List String) : Check :=
  values.forM fun value => validateOptionalShort field (some value)

def validatePositiveI32 (field : String) (value : Option Int32) : Check :=
  if value.any (· ≤ 0) then reject s!"stdio frame field {field} must be greater than zero"
  else .ok ()

def validateNonNegativeI32 (field : String) (value : Option Int32) : Check :=
  if value.any (· < 0) then reject s!"stdio frame field {field} must be greater than or equal to zero"
  else .ok ()

def StdioMessageFields.validate (fields : StdioMessageFields) (command : String) : Check := do
  checkId .agentAlias fields.agent
  if fields.message.isNone && fields.textParts.isEmpty && fields.jsonParts.isEmpty &&
      fields.files.isEmpty && fields.fileBytes.isEmpty then
    reject s!"stdio {command} command requires message, text_parts, json_parts, files, or file_bytes"
  checkOptionalId .contextId fields.context
  checkOptionalId .taskId fields.task
  validateShortValues "text_parts" fields.textParts
  validateShortValues "files" fields.files
  validateShortValues "file_bytes" fields.fileBytes
  validateShortValues "mime" fields.mime
  validateShortValues "accepted_output_modes" fields.acceptedOutputModes

def validateTaskGet (command : StdioTaskGetCommand) : Check := do
  checkId .taskId command.taskId
  checkOptionalId .agentAlias command.agent
  validateOptionalShort "source" command.source
  validateNonNegativeI32 "history_length" command.historyLength

def validateTaskList (command : StdioTaskListCommand) : Check := do
  checkOptionalId .agentAlias command.agent
  checkOptionalId .contextId command.context
  validateOptionalShort "state" command.state
  validateOptionalShort "updated_after" command.updatedAfter
  validateOptionalShort "source" command.source
  validateOptionalShort "page_token" command.pageToken
  validatePositiveI32 "page_size" command.pageSize
  validateNonNegativeI32 "history_length" command.historyLength

def validateTaskWait (command : StdioTaskWaitCommand) : Check := do
  checkId .taskId command.taskId
  checkOptionalId .agentAlias command.agent
  validateOptionalShort "interval" command.interval
  validateNonNegativeI32 "history_length" command.historyLength

def validateTaskCancel (command : StdioTaskCancelCommand) : Check := do
  checkId .taskId command.taskId
  checkOptionalId .agentAlias command.agent

def StdioCommand.validate (command : StdioCommand) : Check :=
  match command with
  | .send fields => fields.validate command.asStr
  | .stream fields => fields.message.validate command.asStr
  | .taskGet fields => validateTaskGet fields
  | .taskList fields => validateTaskList fields
  | .taskWait fields => validateTaskWait fields
  | .taskCancel fields => validateTaskCancel fields

/-! The fields as they are written, in the order of the declarations. -/

def always (value : Json) : Option Json := some value

def StdioMessageFields.slots (fields : StdioMessageFields) : Slots :=
  [("agent", always (.string fields.agent)),
    ("message", skipNone .string fields.message),
    ("text_parts", skipEmpty .string fields.textParts),
    ("json_parts", skipEmpty id fields.jsonParts),
    ("files", skipEmpty .string fields.files),
    ("file_bytes", skipEmpty .string fields.fileBytes),
    ("mime", skipEmpty .string fields.mime),
    ("metadata", always fields.metadata.toJson),
    ("context", skipNone .string fields.context),
    ("task", skipNone .string fields.task),
    ("accepted_output_modes", skipEmpty .string fields.acceptedOutputModes)]

def StdioStreamCommand.slots (command : StdioStreamCommand) : Slots :=
  command.message.slots ++ [("force", always (.bool command.force))]

def StdioTaskGetCommand.slots (command : StdioTaskGetCommand) : Slots :=
  [("task_id", always (.string command.taskId)),
    ("agent", skipNone .string command.agent),
    ("remote", always (.bool command.remote)),
    ("source", skipNone .string command.source),
    ("history_length", skipNone writeI32 command.historyLength)]

def StdioTaskListCommand.slots (command : StdioTaskListCommand) : Slots :=
  [("agent", skipNone .string command.agent),
    ("context", skipNone .string command.context),
    ("state", skipNone .string command.state),
    ("updated_after", skipNone .string command.updatedAfter),
    ("source", skipNone .string command.source),
    ("remote", always (.bool command.remote)),
    ("page_size", skipNone writeI32 command.pageSize),
    ("page_token", skipNone .string command.pageToken),
    ("history_length", skipNone writeI32 command.historyLength),
    ("include_artifacts", always (.bool command.includeArtifacts))]

def StdioTaskWaitCommand.slots (command : StdioTaskWaitCommand) : Slots :=
  [("task_id", always (.string command.taskId)),
    ("agent", skipNone .string command.agent),
    ("local", always (.bool command.localOnly)),
    ("interval", skipNone .string command.interval),
    ("history_length", skipNone writeI32 command.historyLength)]

def StdioTaskCancelCommand.slots (command : StdioTaskCancelCommand) : Slots :=
  [("task_id", always (.string command.taskId)), ("agent", skipNone .string command.agent)]

-- `#[serde(tag = "command")]`
def tagged (name : String) (slots : Slots) : Slots := ("command", always (.string name)) :: slots

def StdioCommand.slots (command : StdioCommand) : Slots :=
  tagged command.asStr <| match command with
    | .send fields => fields.slots
    | .stream fields => fields.slots
    | .taskGet fields => fields.slots
    | .taskList fields => fields.slots
    | .taskWait fields => fields.slots
    | .taskCancel fields => fields.slots

/-! The fields as they are read. -/

def readMetadata : Json → Option Metadata
  | .object fields =>
      let entries : Table (String × Json) := fields.foldl Table.put Table.empty
      if valid : ∀ entry ∈ entries.rows, metadataKeyReason entry.1 = none then some ⟨entries, valid⟩
      else none
  | _ => none

def StdioMessageFields.decode (fields : Fields) : Option StdioMessageFields := do
  let agent ← required Json.asStr (fields "agent")
  let message ← optional Json.asStr (fields "message")
  let textParts ← defaulted (readList Json.asStr) [] (fields "text_parts")
  let jsonParts ← defaulted (readList some) [] (fields "json_parts")
  let files ← defaulted (readList Json.asStr) [] (fields "files")
  let fileBytes ← defaulted (readList Json.asStr) [] (fields "file_bytes")
  let mime ← defaulted (readList Json.asStr) [] (fields "mime")
  let metadata ← defaulted readMetadata .new (fields "metadata")
  let context ← optional Json.asStr (fields "context")
  let task ← optional Json.asStr (fields "task")
  let acceptedOutputModes ← defaulted (readList Json.asStr) [] (fields "accepted_output_modes")
  some ⟨agent, message, textParts, jsonParts, files, fileBytes, mime, metadata, context, task,
    acceptedOutputModes⟩

def StdioStreamCommand.decode (fields : Fields) : Option StdioStreamCommand := do
  let force ← defaulted Json.asBool false (fields "force")
  let message ← StdioMessageFields.decode fields
  some ⟨message, force⟩

def StdioTaskGetCommand.decode (fields : Fields) : Option StdioTaskGetCommand := do
  let taskId ← required Json.asStr (fields "task_id")
  let agent ← optional Json.asStr (fields "agent")
  let remote ← defaulted Json.asBool false (fields "remote")
  let source ← optional Json.asStr (fields "source")
  let historyLength ← optional readI32 (fields "history_length")
  some ⟨taskId, agent, remote, source, historyLength⟩

def StdioTaskListCommand.decode (fields : Fields) : Option StdioTaskListCommand := do
  let agent ← optional Json.asStr (fields "agent")
  let context ← optional Json.asStr (fields "context")
  let state ← optional Json.asStr (fields "state")
  let updatedAfter ← optional Json.asStr (fields "updated_after")
  let source ← optional Json.asStr (fields "source")
  let remote ← defaulted Json.asBool false (fields "remote")
  let pageSize ← optional readI32 (fields "page_size")
  let pageToken ← optional Json.asStr (fields "page_token")
  let historyLength ← optional readI32 (fields "history_length")
  let includeArtifacts ← defaulted Json.asBool false (fields "include_artifacts")
  some ⟨agent, context, state, updatedAfter, source, remote, pageSize, pageToken, historyLength,
    includeArtifacts⟩

def StdioTaskWaitCommand.decode (fields : Fields) : Option StdioTaskWaitCommand := do
  let taskId ← required Json.asStr (fields "task_id")
  let agent ← optional Json.asStr (fields "agent")
  let localOnly ← defaulted Json.asBool false (fields "local")
  let interval ← optional Json.asStr (fields "interval")
  let historyLength ← optional readI32 (fields "history_length")
  some ⟨taskId, agent, localOnly, interval, historyLength⟩

def StdioTaskCancelCommand.decode (fields : Fields) : Option StdioTaskCancelCommand := do
  let taskId ← required Json.asStr (fields "task_id")
  let agent ← optional Json.asStr (fields "agent")
  some ⟨taskId, agent⟩

-- A variant is named by its label, or by its number.
def readVariant {Command : Type} (variants : List (String × (Fields → Option Command)))
    (fields : Fields) : Option Command :=
  match fields "command" with
  | some (.string name) => (variants.lookup name).bind fun read => read fields
  | some (.number (.posInt index)) => variants[index]?.bind fun variant => variant.2 fields
  | _ => none

def StdioCommand.variants : List (String × (Fields → Option StdioCommand)) :=
  [("send", fun fields => (StdioMessageFields.decode fields).map .send),
    ("stream", fun fields => (StdioStreamCommand.decode fields).map .stream),
    ("task_get", fun fields => (StdioTaskGetCommand.decode fields).map .taskGet),
    ("task_list", fun fields => (StdioTaskListCommand.decode fields).map .taskList),
    ("task_wait", fun fields => (StdioTaskWaitCommand.decode fields).map .taskWait),
    ("task_cancel", fun fields => (StdioTaskCancelCommand.decode fields).map .taskCancel)]

def StdioCommand.decode (fields : Fields) : Option StdioCommand := readVariant variants fields

/-! Every command is read back as it was written, except that the names of the frame are not seen:
its own metadata is empty then, and its own source absent. -/

def frameKeys : List String := ["schema_version", "id", "source", "metadata"]

def StdioMessageFields.plain (message : StdioMessageFields) : StdioMessageFields :=
  { message with metadata := .new }

def StdioStreamCommand.plain (command : StdioStreamCommand) : StdioStreamCommand :=
  { command with message := command.message.plain }

def StdioTaskGetCommand.plain (command : StdioTaskGetCommand) : StdioTaskGetCommand :=
  { command with source := none }

def StdioTaskListCommand.plain (command : StdioTaskListCommand) : StdioTaskListCommand :=
  { command with source := none }

def StdioCommand.plain : StdioCommand → StdioCommand
  | .send fields => .send fields.plain
  | .stream fields => .stream fields.plain
  | .taskGet fields => .taskGet fields.plain
  | .taskList fields => .taskList fields.plain
  | .taskWait fields => .taskWait fields
  | .taskCancel fields => .taskCancel fields

/-- The command has no metadata of its own and no source of its own. -/
def StdioCommand.Bare : StdioCommand → Prop
  | .send fields => fields.metadata = .new
  | .stream fields => fields.message.metadata = .new
  | .taskGet fields => fields.source = none
  | .taskList fields => fields.source = none
  | .taskWait _ | .taskCancel _ => True

def StdioCommand.ownSource : StdioCommand → Option String
  | .taskGet fields => fields.source
  | .taskList fields => fields.source
  | _ => none

theorem StdioMessageFields.plain_eq_self (message : StdioMessageFields) :
    message.plain = message ↔ message.metadata = .new := by
  cases message
  simp [plain, eq_comm]

theorem StdioStreamCommand.plain_eq_self (command : StdioStreamCommand) :
    command.plain = command ↔ command.message.metadata = .new := by
  rw [← StdioMessageFields.plain_eq_self]
  cases command
  simp [plain]

theorem StdioCommand.bare_iff (command : StdioCommand) :
    command.Bare ↔ command.plain = command ∧ command.ownSource = none := by
  cases command with
  | send fields => simp [Bare, plain, ownSource, fields.plain_eq_self]
  | stream fields => simp [Bare, plain, ownSource, fields.plain_eq_self]
  | taskGet fields =>
      cases fields
      simp [Bare, plain, ownSource, StdioTaskGetCommand.plain, eq_comm]
  | taskList fields =>
      cases fields
      simp [Bare, plain, ownSource, StdioTaskListCommand.plain, eq_comm]
  | taskWait | taskCancel => simp [Bare, plain, ownSource]

section Reading

variable {fields : Fields}

theorem StdioMessageFields.decode_shown {message : StdioMessageFields}
    (shown : Shows frameKeys fields message.slots) : decode fields = some message.plain := by
  simp only [Shows] at shown
  simp [decode, plain, shown, slots, slot, frameKeys, always]

theorem StdioStreamCommand.decode_shown {command : StdioStreamCommand}
    (shown : Shows frameKeys fields command.slots) : decode fields = some command.plain := by
  have message := StdioMessageFields.decode_shown (shown.left (by simp [StdioMessageFields.slots]))
  have force := shown.right (by simp [StdioMessageFields.slots])
  simp only [Shows] at force
  simp [decode, plain, message, force, slot, frameKeys, always]

theorem StdioTaskGetCommand.decode_shown {command : StdioTaskGetCommand}
    (shown : Shows frameKeys fields command.slots) : decode fields = some command.plain := by
  simp only [Shows] at shown
  simp [decode, plain, shown, slots, slot, frameKeys, always]

theorem StdioTaskListCommand.decode_shown {command : StdioTaskListCommand}
    (shown : Shows frameKeys fields command.slots) : decode fields = some command.plain := by
  simp only [Shows] at shown
  simp [decode, plain, shown, slots, slot, frameKeys, always]

theorem StdioTaskWaitCommand.decode_shown {command : StdioTaskWaitCommand}
    (shown : Shows frameKeys fields command.slots) : decode fields = some command := by
  simp only [Shows] at shown
  simp [decode, shown, slots, slot, frameKeys, always]

theorem StdioTaskCancelCommand.decode_shown {command : StdioTaskCancelCommand}
    (shown : Shows frameKeys fields command.slots) : decode fields = some command := by
  simp only [Shows] at shown
  simp [decode, shown, slots, slot, frameKeys, always]

-- The tag selects the variant, and the variant sees the other fields.
theorem readVariant_tagged {Command : Type} {variants : List (String × (Fields → Option Command))}
    {name : String} {slots : Slots} {read : Fields → Option Command} {command : Command}
    (shown : Shows frameKeys fields (tagged name slots)) (untagged : "command" ∉ slots.map Prod.fst)
    (variant : variants.lookup name = some read)
    (reads : Shows frameKeys fields slots → read fields = some command) :
    readVariant variants fields = some command := by
  have parts : Shows frameKeys fields ([("command", always (.string name))] ++ slots) := shown
  have tag := parts.left (by simpa using untagged)
  have label : fields "command" = some (.string name) := by
    rw [tag "command" (by simp)]
    simp [slot, frameKeys, always]
  have inner := parts.right fun other member same => untagged (by simp_all)
  simp [readVariant, label, variant, reads inner]

theorem StdioCommand.decode_shown {command : StdioCommand}
    (shown : Shows frameKeys fields command.slots) : decode fields = some command.plain := by
  cases command with
  | send message =>
      exact readVariant_tagged shown (by simp [StdioMessageFields.slots]) rfl fun inner => by
        rw [StdioMessageFields.decode_shown inner]
        rfl
  | stream command =>
      exact readVariant_tagged shown (by simp [StdioStreamCommand.slots, StdioMessageFields.slots])
        rfl fun inner => by
          rw [StdioStreamCommand.decode_shown inner]
          rfl
  | taskGet command =>
      exact readVariant_tagged shown (by simp [StdioTaskGetCommand.slots]) rfl fun inner => by
        rw [StdioTaskGetCommand.decode_shown inner]
        rfl
  | taskList command =>
      exact readVariant_tagged shown (by simp [StdioTaskListCommand.slots]) rfl fun inner => by
        rw [StdioTaskListCommand.decode_shown inner]
        rfl
  | taskWait command =>
      exact readVariant_tagged shown (by simp [StdioTaskWaitCommand.slots]) rfl fun inner => by
        rw [StdioTaskWaitCommand.decode_shown inner]
        rfl
  | taskCancel command =>
      exact readVariant_tagged shown (by simp [StdioTaskCancelCommand.slots]) rfl fun inner => by
        rw [StdioTaskCancelCommand.decode_shown inner]
        rfl

end Reading

/-- What the slots of a command hold under the names of a frame. -/
structure FrameSlots (slots : Slots) (ownSource : Option String) : Prop where
  version : slot slots "schema_version" = none
  id : slot slots "id" = none
  source : slot slots "source" = skipNone .string ownSource

theorem StdioMessageFields.frameSlots (message : StdioMessageFields) :
    FrameSlots message.slots none :=
  ⟨by simp [slots, slot], by simp [slots, slot], by simp [slots, slot, skipNone]⟩

theorem FrameSlots.append {first last : Slots} {ownSource laterSource : Option String}
    (left : FrameSlots first ownSource) (right : FrameSlots last laterSource) :
    FrameSlots (first ++ last) (laterSource.or ownSource) where
  version := by rw [slot_append, left.version, right.version, Option.or_none]
  id := by rw [slot_append, left.id, right.id, Option.or_none]
  source := by
    rw [slot_append, left.source, right.source]
    cases laterSource <;> rfl

theorem FrameSlots.tagged {slots : Slots} {ownSource : Option String} (name : String)
    (inner : FrameSlots slots ownSource) : FrameSlots (tagged name slots) ownSource := by
  have label : FrameSlots [("command", always (.string name))] none :=
    ⟨by simp [slot], by simp [slot], by simp [slot, skipNone]⟩
  have both := label.append inner
  rwa [Option.or_none] at both

theorem StdioStreamCommand.frameSlots (command : StdioStreamCommand) :
    FrameSlots command.slots none := by
  have force : FrameSlots [("force", always (.bool command.force))] none :=
    ⟨by simp [slot], by simp [slot], by simp [slot, skipNone]⟩
  exact command.message.frameSlots.append force

theorem StdioTaskWaitCommand.frameSlots (command : StdioTaskWaitCommand) :
    FrameSlots command.slots none :=
  ⟨by simp [slots, slot], by simp [slots, slot], by simp [slots, slot, skipNone]⟩

theorem StdioCommand.frameSlots (command : StdioCommand) :
    FrameSlots command.slots command.ownSource := by
  cases command with
  | send fields => exact fields.frameSlots.tagged "send"
  | stream fields => exact fields.frameSlots.tagged "stream"
  | taskGet fields =>
      have inner : FrameSlots fields.slots fields.source :=
        ⟨by simp [StdioTaskGetCommand.slots, slot], by simp [StdioTaskGetCommand.slots, slot],
          by simp [StdioTaskGetCommand.slots, slot]⟩
      exact inner.tagged "task_get"
  | taskList fields =>
      have inner : FrameSlots fields.slots fields.source :=
        ⟨by simp [StdioTaskListCommand.slots, slot], by simp [StdioTaskListCommand.slots, slot],
          by simp [StdioTaskListCommand.slots, slot]⟩
      exact inner.tagged "task_list"
  | taskWait fields => exact fields.frameSlots.tagged "task_wait"
  | taskCancel fields =>
      have inner : FrameSlots fields.slots none :=
        ⟨by simp [StdioTaskCancelCommand.slots, slot], by simp [StdioTaskCancelCommand.slots, slot],
          by simp [StdioTaskCancelCommand.slots, slot, skipNone]⟩
      exact inner.tagged "task_cancel"

end Missive.StdioCommands
