import Missive.ControlFrames
import Missive.Schema

/-! The long-running `stdio` loop. Each line of the input is read as a frame, its command is run, and
what the command prints is wrapped into response frames. The commands themselves are parameters, and
so are `serde_json`'s reading of a frame and its reading of what it has printed. -/
namespace Missive.StdioLoop

open JsonValue Missive.Core Schema JsonObjects StdioCommands ControlFrames

inductive StdioRunMode where
  | singleShot
  | longRunning

inductive OutputMode where
  | human
  | json
  | ndjson
  | quiet

/-! The arguments of the commands. -/

structure SendArgs where
  agent : String
  message : Option String
  stdin : Bool
  files : List String
  fileBytes : List String
  jsonParts : List String
  mime : List String
  parts : List String
  metadata : List String
  context : Option String
  task : Option String
  acceptedOutputModes : List String

structure StreamArgs where
  send : SendArgs
  force : Bool

structure TaskGetArgs where
  taskId : String
  agent : Option String
  remote : Bool
  source : Option TaskSource
  historyLength : Option Int32

structure TaskListArgs where
  agent : Option String
  context : Option String
  state : Option TaskState
  updatedAfter : Option String
  source : Option TaskSource
  remote : Bool
  pageSize : Option Int32
  pageToken : Option String
  historyLength : Option Int32
  includeArtifacts : Bool

structure TaskWaitArgs where
  taskId : String
  agent : Option String
  localOnly : Bool
  interval : Option String
  historyLength : Option Int32

structure TaskCancelArgs where
  taskId : String
  agent : Option String

inductive Invocation where
  | send (args : SendArgs)
  | stream (args : StreamArgs)
  | taskGet (args : TaskGetArgs)
  | taskList (args : TaskListArgs)
  | taskWait (args : TaskWaitArgs)
  | taskCancel (args : TaskCancelArgs)

-- `value.trim().to_ascii_lowercase().replace('-', "_")`
def normalized (value : String) : String :=
  String.ofList ((RustText.lowercase (JsonRedaction.trim value.toList)).map fun c =>
    if c = '-' then '_' else c)

def taskStates : List TaskState :=
  [.submitted, .working, .inputRequired, .completed, .failed, .cancelled, .unknown]

def taskSources : List TaskSource := [.remote, .local, .gateway]

def stateNamed (value : String) : Option TaskState := taskStates.find? (·.asStr = normalized value)

def sourceNamed (value : String) : Option TaskSource := taskSources.find? (·.asStr = normalized value)

def parseTaskState (value : String) : Except MissiveError TaskState :=
  match stateNamed value with
  | some state => .ok state
  | none => .error (MissiveError.validation (s!"stdio task state {debug value} is invalid; " ++
      "expected submitted, working, input_required, completed, failed, cancelled, or unknown"))

def parseTaskSource (value : String) : Except MissiveError TaskSource :=
  match sourceNamed value with
  | some source => .ok source
  | none => .error (MissiveError.validation
      s!"stdio task source {debug value} is invalid; expected remote, local, or gateway")

section Arguments

-- `Value::to_string`
variable (printed : Json → String)

def sendArgsFromStdio (fields : StdioMessageFields) : SendArgs where
  agent := fields.agent
  message := fields.message
  stdin := false
  files := fields.files
  fileBytes := fields.fileBytes
  jsonParts := fields.jsonParts.map printed
  mime := fields.mime
  parts := fields.textParts.map fun part => "text=" ++ part
  metadata := fields.metadata.entries.rows.map fun entry => entry.1 ++ "=" ++ printed entry.2
  context := fields.context
  task := fields.task
  acceptedOutputModes := fields.acceptedOutputModes

def streamArgsFromStdio (command : StdioStreamCommand) : StreamArgs :=
  ⟨sendArgsFromStdio printed command.message, command.force⟩

-- `value.map(parse).transpose()`
def parseOptional {Value : Type} (read : String → Except MissiveError Value) :
    Option String → Except MissiveError (Option Value)
  | none => .ok none
  | some value => (read value).map some

def taskGetArgsFromStdio (command : StdioTaskGetCommand) : Except MissiveError TaskGetArgs := do
  let source ← parseOptional parseTaskSource command.source
  .ok ⟨command.taskId, command.agent, command.remote, source, command.historyLength⟩

def taskListArgsFromStdio (command : StdioTaskListCommand) : Except MissiveError TaskListArgs := do
  let state ← parseOptional parseTaskState command.state
  let source ← parseOptional parseTaskSource command.source
  .ok ⟨command.agent, command.context, state, command.updatedAfter, source, command.remote,
    command.pageSize, command.pageToken, command.historyLength, command.includeArtifacts⟩

def invocation : StdioCommand → Except MissiveError Invocation
  | .send fields => .ok (.send (sendArgsFromStdio printed fields))
  | .stream fields => .ok (.stream (streamArgsFromStdio printed fields))
  | .taskGet fields => (taskGetArgsFromStdio fields).map .taskGet
  | .taskList fields => (taskListArgsFromStdio fields).map .taskList
  | .taskWait fields => .ok (.taskWait
      ⟨fields.taskId, fields.agent, fields.localOnly, fields.interval, fields.historyLength⟩)
  | .taskCancel fields => .ok (.taskCancel ⟨fields.taskId, fields.agent⟩)

end Arguments

/-! What a command prints. -/

def envelope (kind : String) (sequence : Option UInt64) (data : Json) : Json :=
  objectOf [("schema_version", always (.string "missive.output.v1")), ("ok", always (.bool true)),
    ("kind", always (.string kind)), ("sequence", sequence.map fun number => .nat number.toNat),
    ("data", always (JsonRedaction.outputRedactJson data))]

-- The JSON documents written; a line of text for a human is none.
def renderSuccess (mode : OutputMode) (kind : String) (data : Json) : List Json :=
  match mode with
  | .json => [envelope kind none data]
  | .ndjson => [envelope kind (some 0) data]
  | .human | .quiet => []

def renderStreamItem (mode : OutputMode) (kind : String) (sequence : UInt64) (data : Json) : List Json :=
  match mode with
  | .ndjson => [envelope kind (some sequence) data]
  | .human | .json | .quiet => []

def renderStreamResult (mode : OutputMode) (sequence : UInt64) (data : Json) : List Json :=
  match mode with
  | .ndjson => renderStreamItem mode "stream_result" sequence data
  | _ => renderSuccess mode "stream_result" data

/-- What the commands compute. Each gives the data it prints, or the error it ends with; a stream
gives the data of its events as well, and a wait that has printed its task may still end with an
error. -/
structure Commands (World : Type) where
  send : SendArgs → World → Except MissiveError Json × World
  stream : StreamArgs → World →
    (List (UInt64 × Json) × Except MissiveError (UInt64 × Json)) × World
  taskGet : TaskGetArgs → World → Except MissiveError Json × World
  taskList : TaskListArgs → World → Except MissiveError Json × World
  taskWait : TaskWaitArgs → World → Except MissiveError (Json × Except MissiveError Unit) × World
  taskCancel : TaskCancelArgs → World → Except MissiveError Json × World

-- What a command has printed, and how it ended.
structure Printed where
  documents : List Json
  result : Except MissiveError Unit

def printOne (mode : OutputMode) (kind : String) : Except MissiveError Json → Printed
  | .ok data => ⟨renderSuccess mode kind data, .ok ()⟩
  | .error error => ⟨[], .error error⟩

def printStream (mode : OutputMode) (events : List (UInt64 × Json)) :
    Except MissiveError (UInt64 × Json) → Printed
  | .ok (sequence, data) =>
      ⟨events.flatMap (fun event => renderStreamItem mode "stream_event" event.1 event.2) ++
        renderStreamResult mode sequence data, .ok ()⟩
  | .error error =>
      ⟨events.flatMap fun event => renderStreamItem mode "stream_event" event.1 event.2, .error error⟩

def printWait (mode : OutputMode) :
    Except MissiveError (Json × Except MissiveError Unit) → Printed
  | .ok (data, exit) => ⟨renderSuccess mode "task_wait" data, exit⟩
  | .error error => ⟨[], .error error⟩

section Loop

variable {World : Type} (commands : Commands World)

def execute (mode : OutputMode) (world : World) : Invocation → Printed × World
  | .send args => (commands.send args world).map (printOne mode "send_result") id
  | .stream args => (commands.stream args world).map (fun ran => printStream mode ran.1 ran.2) id
  | .taskGet args => (commands.taskGet args world).map (printOne mode "task_get") id
  | .taskList args => (commands.taskList args world).map (printOne mode "task_list") id
  | .taskWait args => (commands.taskWait args world).map (printWait mode) id
  | .taskCancel args => (commands.taskCancel args world).map (printOne mode "task_cancel") id

/-! Response frames. -/

structure StdioOutputFrame where
  schemaVersion : String
  id : Option String
  ok : Bool
  kind : String
  sequence : Nat
  data : Option Json
  error : Option MissiveError

def successFrame (id : Option String) (kind : String) (sequence : Nat) (data : Json) :
    StdioOutputFrame :=
  ⟨"missive.stdio.v1", id, true, kind, sequence, some data, none⟩

def errorFrame (id : Option String) (sequence : Nat) (error : MissiveError) : StdioOutputFrame :=
  ⟨"missive.stdio.v1", id, false, "stdio_error", sequence, none, some error⟩

-- `serde_json` reading a document again that it has printed, and the `serde_json::from_str` of a
-- frame.
variable (reread : Json → Option Json) (parse : String → Option StdioInputFrame)
  (printed : Json → String)

def wrapDocument (frameId failure : String) (document : Json × Nat) :
    Except MissiveError StdioOutputFrame :=
  match reread document.1 with
  | some value => .ok (successFrame (some frameId) "stdio_command_output" document.2 value)
  | none => .error (MissiveError.orchestration failure)

def unreadable : String := "command JSON output could not be parsed for stdio framing"

def wrapCommandOutput (frameId : String) (documents : List Json) (mode : OutputMode) :
    Except MissiveError (List StdioOutputFrame) :=
  match mode with
  | .json =>
      match documents with
      | [] => .ok []
      | [document] => (wrapDocument reread frameId unreadable (document, 0)).map fun frame => [frame]
      -- two documents are no JSON text
      | _ => .error (MissiveError.orchestration unreadable)
  | .ndjson =>
      documents.zipIdx.mapM
        (wrapDocument reread frameId "command NDJSON output could not be parsed for stdio framing")
  | .human | .quiet => .ok []

def innerMode (command : StdioCommand) (runMode : StdioRunMode) : OutputMode :=
  match command, runMode with
  | .stream _, .longRunning => .ndjson
  | _, _ => .json

def responseFrames (frameId : String) (mode : OutputMode) (ran : Printed) :
    Except MissiveError (List StdioOutputFrame) := do
  let frames ← wrapCommandOutput reread frameId ran.documents mode
  match ran.result with
  | .ok () => .ok frames
  | .error error => .ok (frames ++ [errorFrame (some frameId) frames.length error])

def executeStdioFrame (frame : StdioInputFrame) (runMode : StdioRunMode) (world : World) :
    Except MissiveError (List StdioOutputFrame) × World :=
  match invocation printed frame.command with
  | .error error => (.error error, world)
  | .ok asked =>
      let mode := innerMode frame.command runMode
      let ran := execute commands mode world asked
      (responseFrames reread frame.id mode ran.1, ran.2)

/-! The loop. -/

-- What has been written, how the work ended, and what it has left.
structure Session (World : Type) where
  written : List StdioOutputFrame
  outcome : Except MissiveError Unit
  world : World

def fromJsonStr (text : String) : Except MissiveError StdioInputFrame :=
  match parse text with
  | none => .error ((MissiveError.validation "failed to parse stdio input frame as JSON").withHelp
      "Send one JSON object with schema_version, id, command, and command fields.")
  | some frame => do
      frame.validate stdioFormat
      .ok frame

def handleStdioFrameResult (number : Nat) (result : Except MissiveError StdioInputFrame)
    (runMode : StdioRunMode) (world : World) : Session World :=
  match result with
  | .ok frame =>
      match executeStdioFrame commands reread printed frame runMode world with
      | (.ok frames, after) => ⟨frames, .ok (), after⟩
      | (.error error, after) => ⟨[], .error error, after⟩
  | .error error =>
      ⟨[{ errorFrame none 0 error with data := some (objectOf [("line", always (.nat number))]) }],
        .ok (), world⟩

def isBlank (text : String) : Bool := (JsonRedaction.trim text.toList).isEmpty

-- A line as `lines()` gives it: its bytes, without the line break.
abbrev Line := ByteArray

def handleLine (index : Nat) (line : Line) (world : World) : Session World :=
  match String.fromUTF8? line with
  | none => ⟨[], .error ⟨.io, "reading stdio NDJSON frame", none⟩, world⟩
  | some text =>
      if isBlank text then ⟨[], .ok (), world⟩
      else
        handleStdioFrameResult commands reread printed (index + 1) (fromJsonStr parse text)
          .longRunning world

def runLines (index : Nat) : List Line → World → Session World
  | [], world => ⟨[], .ok (), world⟩
  | line :: rest, world =>
      let handled := handleLine commands reread parse printed index line world
      match handled.outcome with
      | .error _ => handled
      | .ok () =>
          let later := runLines (index + 1) rest handled.world
          { later with written := handled.written ++ later.written }

end Loop

/-! What the responses to a line are. -/

section Responses

variable (parse : String → Option StdioInputFrame)

def lineBlank (line : Line) : Bool := (String.fromUTF8? line).any isBlank

def lineFrame (line : Line) : Option StdioInputFrame :=
  (String.fromUTF8? line).bind fun text => (fromJsonStr parse text).toOption

/-- The responses to a valid frame carry its id and count up from zero; to any other line there is
one, an error. -/
def Answers (line : Line) (frames : List StdioOutputFrame) : Prop :=
  match lineFrame parse line with
  | some frame =>
      frames ≠ [] ∧ (∀ response ∈ frames, response.id = some frame.id) ∧
        frames.map StdioOutputFrame.sequence = List.range frames.length
  | none => ∃ response, frames = [response] ∧ response.ok = false ∧ response.kind = "stdio_error"

/-- The loop has read all lines, and has answered those that are not blank, one after another. -/
def Answered {World : Type} (lines : List Line) (session : Session World) : Prop :=
  session.outcome = .ok () ∧ ∃ responses : List (List StdioOutputFrame),
    List.Forall₂ (Answers parse) (lines.filter fun line => !lineBlank line) responses ∧
      session.written = responses.flatten

end Responses

/-! When there is a response. -/

/-- The store knows the state and the source that the command names. -/
def Named (command : StdioCommand) : Prop :=
  match command with
  | .taskGet fields => ∀ source ∈ fields.source, (sourceNamed source).isSome
  | .taskList fields =>
      (∀ state ∈ fields.state, (stateNamed state).isSome) ∧
        ∀ source ∈ fields.source, (sourceNamed source).isSome
  | _ => True

theorem parseOptional_iff {Value : Type} {read : String → Except MissiveError Value}
    {named : String → Option Value} (agrees : ∀ text, (read text).toOption = named text)
    (text : Option String) :
    (∃ value, parseOptional read text = .ok value) ↔ ∀ value ∈ text, (named value).isSome := by
  cases text with
  | none => simp [parseOptional]
  | some text =>
      have known := agrees text
      cases result : read text with
      | ok value =>
          rw [result] at known
          simp [parseOptional, result, ← known, Except.toOption, Except.map]
      | error failure =>
          rw [result] at known
          simp [parseOptional, result, ← known, Except.toOption, Except.map]

theorem parseTaskState_named (text : String) : (parseTaskState text).toOption = stateNamed text := by
  unfold parseTaskState
  cases stateNamed text <;> rfl

theorem parseTaskSource_named (text : String) :
    (parseTaskSource text).toOption = sourceNamed text := by
  unfold parseTaskSource
  cases sourceNamed text <;> rfl

theorem invocation_iff (printed : Json → String) (command : StdioCommand) :
    (∃ asked, invocation printed command = .ok asked) ↔ Named command := by
  cases command with
  | taskGet fields =>
      rw [Named, ← parseOptional_iff parseTaskSource_named]
      cases read : parseOptional parseTaskSource fields.source <;>
        simp [invocation, taskGetArgsFromStdio, read, bind, Except.bind, Except.map]
  | taskList fields =>
      rw [Named, ← parseOptional_iff parseTaskState_named, ← parseOptional_iff parseTaskSource_named]
      cases state : parseOptional parseTaskState fields.state <;>
        cases source : parseOptional parseTaskSource fields.source <;>
          simp [invocation, taskListArgsFromStdio, state, source, bind, Except.bind, Except.map]
  | _ => simp [invocation, Named]

section Wrapping

variable {World : Type} (commands : Commands World) (reread : Json → Option Json)

/-- What is wrapped: a whole JSON output, or the lines of an NDJSON output. -/
def Wrappable (mode : OutputMode) (documents : List Json) : Prop :=
  match mode with
  | .json => documents.length ≤ 1
  | .ndjson => True
  | .human | .quiet => False

/-- The frames are those of the documents, in their order. -/
def Wraps (frameId : String) (documents : List Json) (frames : List StdioOutputFrame) : Prop :=
  frames.length = documents.length ∧ (∀ response ∈ frames, response.id = some frameId) ∧
    frames.map StdioOutputFrame.sequence = List.range frames.length

theorem wrapDocument_iff (frameId failure : String) (document : Json × Nat) :
    (∃ frame, wrapDocument reread frameId failure document = .ok frame) ↔
      (reread document.1).isSome := by
  unfold wrapDocument
  cases reread document.1 <;> simp

theorem wrapDocument_shape {frameId failure : String} {document : Json × Nat}
    {frame : StdioOutputFrame} (wrapped : wrapDocument reread frameId failure document = .ok frame) :
    frame.id = some frameId ∧ frame.sequence = document.2 := by
  unfold wrapDocument at wrapped
  split at wrapped
  · cases wrapped
    exact ⟨rfl, rfl⟩
  · cases wrapped

-- Line by line: the numbering starts where the lines before have ended.
theorem wrapLines_iff (frameId failure : String) (documents : List Json) (start : Nat) :
    (∃ frames, (documents.zipIdx start).mapM (wrapDocument reread frameId failure) = .ok frames) ↔
      ∀ document ∈ documents, (reread document).isSome := by
  induction documents generalizing start with
  | nil => simp [pure, Except.pure]
  | cons document rest ih =>
      have first := wrapDocument_iff reread frameId failure (document, start)
      have others := ih (start + 1)
      rw [List.forall_mem_cons, ← others, ← first, List.zipIdx_cons, List.mapM_cons]
      cases wrapDocument reread frameId failure (document, start) <;>
        cases (rest.zipIdx (start + 1)).mapM (wrapDocument reread frameId failure) <;>
          simp [bind, Except.bind, pure, Except.pure]

theorem wrapLines_shape {frameId failure : String} (documents : List Json) (start : Nat)
    {frames : List StdioOutputFrame}
    (wrapped : (documents.zipIdx start).mapM (wrapDocument reread frameId failure) = .ok frames) :
    frames.length = documents.length ∧ (∀ response ∈ frames, response.id = some frameId) ∧
      frames.map StdioOutputFrame.sequence = List.range' start frames.length := by
  induction documents generalizing start frames with
  | nil =>
      cases wrapped
      simp
  | cons document rest ih =>
      rw [List.zipIdx_cons, List.mapM_cons] at wrapped
      cases head : wrapDocument reread frameId failure (document, start) with
      | error failure => simp [head, bind, Except.bind] at wrapped
      | ok first =>
          cases tail : (rest.zipIdx (start + 1)).mapM (wrapDocument reread frameId failure) with
          | error failure => simp [head, tail, bind, Except.bind] at wrapped
          | ok others =>
              simp only [head, tail, bind, Except.bind, pure, Except.pure, Except.ok.injEq] at wrapped
              cases wrapped
              obtain ⟨count, ids, numbers⟩ := ih (start + 1) tail
              obtain ⟨id, number⟩ := wrapDocument_shape reread head
              refine ⟨by simp [count], ?_, ?_⟩
              · exact List.forall_mem_cons.mpr ⟨id, ids⟩
              · rw [List.map_cons, numbers, number, List.length_cons, List.range'_succ]

theorem wrapCommandOutput_iff {frameId : String} {documents : List Json} {mode : OutputMode}
    (wrappable : Wrappable mode documents) :
    (∃ frames, wrapCommandOutput reread frameId documents mode = .ok frames) ↔
      ∀ document ∈ documents, (reread document).isSome := by
  cases mode with
  | json =>
      match documents, wrappable with
      | [], _ => simp [wrapCommandOutput]
      | [document], _ =>
          have single := wrapDocument_iff reread frameId unreadable (document, 0)
          rw [List.forall_mem_singleton, ← single]
          simp only [wrapCommandOutput]
          cases wrapDocument reread frameId unreadable (document, 0) <;> simp [Except.map]
  | ndjson => exact wrapLines_iff reread frameId _ documents 0
  | human | quiet => exact wrappable.elim

theorem wrapCommandOutput_wraps {frameId : String} {documents : List Json} {mode : OutputMode}
    {frames : List StdioOutputFrame} (wrappable : Wrappable mode documents)
    (wrapped : wrapCommandOutput reread frameId documents mode = .ok frames) :
    Wraps frameId documents frames := by
  cases mode with
  | json =>
      match documents, wrappable with
      | [], _ =>
          cases wrapped
          exact ⟨rfl, by simp, rfl⟩
      | [document], _ =>
          simp only [wrapCommandOutput] at wrapped
          cases read : wrapDocument reread frameId unreadable (document, 0) with
          | error failure => simp [read, Except.map] at wrapped
          | ok frame =>
              simp only [read, Except.map, Except.ok.injEq] at wrapped
              cases wrapped
              obtain ⟨id, number⟩ := wrapDocument_shape reread read
              exact ⟨rfl, by simp [id], by simp [number]⟩
  | ndjson =>
      obtain ⟨count, ids, numbers⟩ := wrapLines_shape reread documents 0 wrapped
      exact ⟨count, ids, numbers.trans List.range_eq_range'.symm⟩
  | human | quiet => exact wrappable.elim

/-- A command that succeeds has printed something. -/
structure Speaks (mode : OutputMode) (ran : Printed) : Prop where
  wrappable : Wrappable mode ran.documents
  shown : ran.result = .ok () → ran.documents ≠ []

theorem printOne_speaks (kind : String) (result : Except MissiveError Json) :
    Speaks .json (printOne .json kind result) := by
  cases result with
  | ok data => exact ⟨Nat.le_refl 1, fun _ => by simp [printOne, renderSuccess]⟩
  | error error => exact ⟨Nat.zero_le 1, fun done => by cases done⟩

theorem printWait_speaks (result : Except MissiveError (Json × Except MissiveError Unit)) :
    Speaks .json (printWait .json result) := by
  cases result with
  | ok shown => exact ⟨Nat.le_refl 1, fun _ => by simp [printWait, renderSuccess]⟩
  | error error => exact ⟨Nat.zero_le 1, fun done => by cases done⟩

theorem printStream_speaks (mode : OutputMode) (events : List (UInt64 × Json))
    (result : Except MissiveError (UInt64 × Json)) (framed : mode = .json ∨ mode = .ndjson) :
    Speaks mode (printStream mode events result) := by
  rcases framed with rfl | rfl
  · cases result with
    | ok shown =>
        constructor
        · simp [printStream, Wrappable, renderStreamItem, renderStreamResult, renderSuccess]
        · exact fun _ => by simp [printStream, renderStreamResult, renderSuccess]
    | error error => exact ⟨by simp [printStream, Wrappable, renderStreamItem], fun done => by cases done⟩
  · cases result with
    | ok shown => exact ⟨trivial, fun _ => by simp [printStream, renderStreamResult, renderStreamItem]⟩
    | error error => exact ⟨trivial, fun done => by cases done⟩

theorem execute_speaks {printed : Json → String} {command : StdioCommand} {asked : Invocation}
    (runMode : StdioRunMode) (world : World) (lowered : invocation printed command = .ok asked) :
    Speaks (innerMode command runMode)
      (execute commands (innerMode command runMode) world asked).1 := by
  cases command with
  | send fields =>
      cases lowered
      exact printOne_speaks "send_result" _
  | stream fields =>
      cases lowered
      apply printStream_speaks
      cases runMode
      · exact Or.inl rfl
      · exact Or.inr rfl
  | taskGet fields =>
      cases read : taskGetArgsFromStdio fields with
      | error failure => simp [invocation, read, Except.map] at lowered
      | ok args =>
          simp only [invocation, read, Except.map, Except.ok.injEq] at lowered
          cases lowered
          exact printOne_speaks "task_get" _
  | taskList fields =>
      cases read : taskListArgsFromStdio fields with
      | error failure => simp [invocation, read, Except.map] at lowered
      | ok args =>
          simp only [invocation, read, Except.map, Except.ok.injEq] at lowered
          cases lowered
          exact printOne_speaks "task_list" _
  | taskWait fields =>
      cases lowered
      exact printWait_speaks _
  | taskCancel fields =>
      cases lowered
      exact printOne_speaks "task_cancel" _

theorem responseFrames_iff {frameId : String} {mode : OutputMode} {ran : Printed}
    (speaks : Speaks mode ran) :
    (∃ frames, responseFrames reread frameId mode ran = .ok frames) ↔
      ∀ document ∈ ran.documents, (reread document).isSome := by
  rw [← wrapCommandOutput_iff reread speaks.wrappable]
  unfold responseFrames
  cases wrapCommandOutput reread frameId ran.documents mode with
  | error failure => simp [bind, Except.bind]
  | ok frames => cases ran.result <;> simp [bind, Except.bind]

theorem responseFrames_shape {frameId : String} {mode : OutputMode} {ran : Printed}
    {frames : List StdioOutputFrame} (speaks : Speaks mode ran)
    (wrapped : responseFrames reread frameId mode ran = .ok frames) :
    frames ≠ [] ∧ (∀ response ∈ frames, response.id = some frameId) ∧
      frames.map StdioOutputFrame.sequence = List.range frames.length := by
  unfold responseFrames at wrapped
  cases inner : wrapCommandOutput reread frameId ran.documents mode with
  | error failure => simp [inner, bind, Except.bind] at wrapped
  | ok outputs =>
      obtain ⟨count, ids, numbers⟩ := wrapCommandOutput_wraps reread speaks.wrappable inner
      cases ended : ran.result with
      | ok done =>
          simp only [inner, ended, bind, Except.bind, Except.ok.injEq] at wrapped
          cases wrapped
          have filled : 0 < ran.documents.length := List.length_pos_iff.mpr (speaks.shown ended)
          refine ⟨List.length_pos_iff.mp (by omega), ids, numbers⟩
      | error error =>
          simp only [inner, ended, bind, Except.bind, Except.ok.injEq] at wrapped
          cases wrapped
          refine ⟨by simp, ?_, ?_⟩
          · intro response member
            rcases List.mem_append.mp member with old | last
            · exact ids response old
            · rw [List.mem_singleton.mp last]
              rfl
          · rw [List.map_append, numbers, List.length_append, List.length_singleton,
              List.range_succ]
            rfl

end Wrapping

section Lines

variable {World : Type} (commands : Commands World) (reread : Json → Option Json)
  (parse : String → Option StdioInputFrame) (printed : Json → String)

-- What the command of a frame prints, where its arguments can be read.
def documents (frame : StdioInputFrame) (world : World) : List Json :=
  match invocation printed frame.command with
  | .ok asked => (execute commands (innerMode frame.command .longRunning) world asked).1.documents
  | .error _ => []

/-- The line is text, and if it is a valid frame, its command names a known state and source and
what the command prints can be read again. -/
def Answerable (world : World) (line : Line) : Prop :=
  match String.fromUTF8? line with
  | none => False
  | some text => ∀ frame, isBlank text = false → fromJsonStr parse text = .ok frame →
      Named frame.command ∧
        ∀ document ∈ documents commands printed frame world, (reread document).isSome

def EachAnswerable (index : Nat) (world : World) : List Line → Prop
  | [] => True
  | line :: rest => Answerable commands reread parse printed world line ∧
      EachAnswerable (index + 1) (handleLine commands reread parse printed index line world).world rest

theorem executeStdioFrame_iff (frame : StdioInputFrame) (world : World) :
    (∃ frames, (executeStdioFrame commands reread printed frame .longRunning world).1 = .ok frames) ↔
      Named frame.command ∧
        ∀ document ∈ documents commands printed frame world, (reread document).isSome := by
  rw [← invocation_iff printed]
  unfold executeStdioFrame documents
  cases lowered : invocation printed frame.command with
  | error failure => simp
  | ok asked =>
      have speaks := execute_speaks commands .longRunning world lowered
      simpa using responseFrames_iff reread speaks

theorem executeStdioFrame_shape {frame : StdioInputFrame} {world : World}
    {frames : List StdioOutputFrame}
    (ran : (executeStdioFrame commands reread printed frame .longRunning world).1 = .ok frames) :
    frames ≠ [] ∧ (∀ response ∈ frames, response.id = some frame.id) ∧
      frames.map StdioOutputFrame.sequence = List.range frames.length := by
  unfold executeStdioFrame at ran
  cases lowered : invocation printed frame.command with
  | error failure => simp [lowered] at ran
  | ok asked =>
      simp only [lowered] at ran
      exact responseFrames_shape reread (execute_speaks commands .longRunning world lowered) ran

theorem handled_iff (number : Nat) (result : Except MissiveError StdioInputFrame) (world : World) :
    (handleStdioFrameResult commands reread printed number result .longRunning world).outcome =
        .ok () ↔
      ∀ frame, result = .ok frame → Named frame.command ∧
        ∀ document ∈ documents commands printed frame world, (reread document).isSome := by
  cases result with
  | error failure => simp [handleStdioFrameResult]
  | ok frame =>
      have ends := executeStdioFrame_iff commands reread printed frame world
      simp only [handleStdioFrameResult]
      cases ran : executeStdioFrame commands reread printed frame .longRunning world with
      | mk result after =>
          rw [ran] at ends
          cases result with
          | ok frames => simpa using ends
          | error failure => simpa using ends

theorem handleLine_iff (index : Nat) (line : Line) (world : World) :
    (handleLine commands reread parse printed index line world).outcome = .ok () ↔
      Answerable commands reread parse printed world line := by
  unfold handleLine Answerable
  cases String.fromUTF8? line with
  | none => simp
  | some text =>
      by_cases blank : isBlank text = true
      · simp [blank]
      · simp [blank, handled_iff]

theorem handled_answers {number : Nat} {result : Except MissiveError StdioInputFrame} {world : World}
    (ended : (handleStdioFrameResult commands reread printed number result .longRunning
      world).outcome = .ok ()) :
    match result.toOption with
    | some frame =>
        let frames := (handleStdioFrameResult commands reread printed number result .longRunning
          world).written
        frames ≠ [] ∧ (∀ response ∈ frames, response.id = some frame.id) ∧
          frames.map StdioOutputFrame.sequence = List.range frames.length
    | none => ∃ response, (handleStdioFrameResult commands reread printed number result .longRunning
        world).written = [response] ∧ response.ok = false ∧ response.kind = "stdio_error" := by
  cases result with
  | error failure => exact ⟨_, rfl, rfl, rfl⟩
  | ok frame =>
      simp only [handleStdioFrameResult] at ended ⊢
      cases ran : executeStdioFrame commands reread printed frame .longRunning world with
      | mk result after =>
          cases result with
          | ok frames =>
              exact executeStdioFrame_shape commands reread printed (congrArg Prod.fst ran)
          | error failure => simp [ran] at ended

theorem handleLine_answers {index : Nat} {line : Line} {world : World}
    (ended : (handleLine commands reread parse printed index line world).outcome = .ok ()) :
    if lineBlank line then (handleLine commands reread parse printed index line world).written = []
    else Answers parse line (handleLine commands reread parse printed index line world).written := by
  unfold handleLine at ended ⊢
  cases read : String.fromUTF8? line with
  | none => simp [read] at ended
  | some text =>
      by_cases blank : isBlank text = true
      · simp [lineBlank, read, blank]
      · simp only [read, blank] at ended ⊢
        simp only [lineBlank, read, Option.any_some, blank, Answers, lineFrame, Option.bind_some]
        exact handled_answers commands reread printed ended

attribute [local simp] runLines

theorem runLines_step (index : Nat) (line : Line) (rest : List Line) (world : World)
    (ended : (handleLine commands reread parse printed index line world).outcome = .ok ()) :
    runLines commands reread parse printed index (line :: rest) world =
      let handled := handleLine commands reread parse printed index line world
      let later := runLines commands reread parse printed (index + 1) rest handled.world
      { later with written := handled.written ++ later.written } := by
  simp only [runLines, ended]

theorem runLines_iff (index : Nat) (lines : List Line) (world : World) :
    (runLines commands reread parse printed index lines world).outcome = .ok () ↔
      EachAnswerable commands reread parse printed index world lines := by
  induction lines generalizing index world with
  | nil => simp [EachAnswerable]
  | cons line rest ih =>
      rw [EachAnswerable, ← ih, ← handleLine_iff commands reread parse printed index]
      cases ended : (handleLine commands reread parse printed index line world).outcome with
      | error failure => simp [ended]
      | ok done =>
          rw [runLines_step commands reread parse printed index line rest world ended]
          simp

theorem runLines_answered (index : Nat) (lines : List Line) (world : World)
    (ended : (runLines commands reread parse printed index lines world).outcome = .ok ()) :
    Answered parse lines (runLines commands reread parse printed index lines world) := by
  induction lines generalizing index world with
  | nil => exact ⟨rfl, [], List.Forall₂.nil, rfl⟩
  | cons line rest ih =>
      cases handled : (handleLine commands reread parse printed index line world).outcome with
      | error failure => simp [handled] at ended
      | ok done =>
          have answers := handleLine_answers commands reread parse printed handled
          rw [runLines_step commands reread parse printed index line rest world handled] at ended ⊢
          obtain ⟨_, responses, each, written⟩ := ih (index + 1) _ ended
          refine ⟨ended, ?_⟩
          by_cases blank : lineBlank line = true
          · rw [if_pos blank] at answers
            exact ⟨responses, by simpa [blank] using each, by simp [answers, written]⟩
          · rw [if_neg blank] at answers
            refine ⟨(handleLine commands reread parse printed index line world).written :: responses, ?_,
              by simp [written]⟩
            rw [List.filter_cons_of_pos (by simp [blank])]
            exact List.Forall₂.cons answers each

/-- The loop answers its input exactly when each line is answerable in the state it finds. -/
theorem loop_answers_iff (lines : List Line) (world : World) :
    Answered parse lines (runLines commands reread parse printed 0 lines world) ↔
      EachAnswerable commands reread parse printed 0 world lines := by
  rw [← runLines_iff]
  exact ⟨fun answered => answered.1, runLines_answered commands reread parse printed 0 lines world⟩

end Lines

-- A store without tasks, and no agent that answers.
def idleCommands : Commands Unit where
  send _ world := (.error (MissiveError.validation "no agent"), world)
  stream _ world := (([], .error (MissiveError.validation "no agent")), world)
  taskGet _ world := (.error (MissiveError.storage "no task"), world)
  taskList _ world := (.ok (.array []), world)
  taskWait _ world := (.error (MissiveError.storage "no task"), world)
  taskCancel _ world := (.error (MissiveError.storage "no task"), world)

def listText (state : String) : String :=
  "\x7b\"schema_version\":\"missive.stdio.v1\",\"id\":\"req-3\",\"command\":\"task_list\",\"state\":\"" ++
    state ++ "\"\x7d"

def listFrame (state : String) : StdioInputFrame :=
  ⟨"missive.stdio.v1", "req-3", ⟨"stdio", none, "default", none⟩,
    .taskList ⟨none, none, some state, none, none, false, none, none, none, false⟩, .new⟩

-- What `serde_json` reads of the lines below.
def parseListed (text : String) : Option StdioInputFrame :=
  if text = listText "bogus" then some (listFrame "bogus")
  else if text = listText "working" then some (listFrame "working")
  else none

theorem fromUTF8?_toUTF8 (text : String) : String.fromUTF8? text.toUTF8 = some text := by
  unfold String.fromUTF8?
  split
  · rfl
  · rename_i invalid
    exact absurd text.isValidUTF8 (by simpa using invalid)

/-- A list of tasks in a state of no name ends the loop, and the line behind it gets no answer. -/
theorem bogus_state_ends_loop :
    ¬ Answered parseListed [(listText "bogus").toUTF8, (listText "working").toUTF8]
      (runLines idleCommands some parseListed (fun _ => "") 0
        [(listText "bogus").toUTF8, (listText "working").toUTF8] ()) := by
  intro answered
  have first := ((runLines_iff idleCommands some parseListed (fun _ => "") 0 _ ()).mp answered.1).1
  have visible : isBlank (listText "bogus") = false := by decide
  have valid : (listFrame "bogus").validate stdioFormat = .ok () := by decide
  have read : fromJsonStr parseListed (listText "bogus") = .ok (listFrame "bogus") := by
    simp [fromJsonStr, parseListed, valid, bind, Except.bind]
  rw [Answerable, fromUTF8?_toUTF8] at first
  have known := (first (listFrame "bogus") visible read).1.1 "bogus" rfl
  exact absurd known (by decide)

end Missive.StdioLoop
