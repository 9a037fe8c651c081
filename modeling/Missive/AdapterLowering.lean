import Missive.Contexts
import Missive.HttpInbound
import Missive.SendInputs

/-! The messages that the adapters send. The fields of a request are written as the arguments of
`missive send`, and the command reads them back. How `serde_json` writes and reads a value comes
from outside. -/
namespace Missive.AdapterLowering

open JsonValue KeyedTable Missive.Core Effects Artifacts BackgroundJobs Protocol StdioCommands
  HttpInbound Contexts SendInputs

/-- `SendArgs`, with the fields that the parts are not read from. -/
structure FullSendArgs (Path : Type) extends SendArgs Path where
  agent : String
  metadata : List String
  context : Option String
  task : Option String
  acceptedOutputModes : List String

/-! Writing the arguments. A path is its text. -/

section Writing

variable (toText : Json → String)

def metadataArg (entry : String × Json) : String := entry.1 ++ "=" ++ toText entry.2

def metadataToCliArgs (metadata : Metadata) : List String :=
  metadata.entries.rows.map (metadataArg toText)

def sendArgsFromStdio (fields : StdioMessageFields) : FullSendArgs String where
  agent := fields.agent
  message := fields.message
  stdin := false
  files := fields.files
  fileBytes := fields.fileBytes
  jsonParts := fields.jsonParts.map toText
  mime := fields.mime
  parts := fields.textParts.map fun part => "text=" ++ part
  metadata := metadataToCliArgs toText fields.metadata
  context := fields.context
  task := fields.task
  acceptedOutputModes := fields.acceptedOutputModes

end Writing

/-! The request. -/

-- The three other fields are never set.
structure SendMessageConfiguration where
  acceptedOutputModes : Option (List String)

structure SendMessageRequest where
  message : Message
  configuration : Option SendMessageConfiguration
  metadata : Option FieldMap
  tenant : Option String

structure PreparedSend where
  request : SendMessageRequest
  requestMessageId : MessageId
  requestedContextId : Option ContextId
  requestedTaskId : Option TaskId
  localMetadata : Metadata
  acceptedOutputModes : List String
  partSummaries : List MessagePartSummary
  localInputBytes : UInt64
  requestBytes : UInt64

def validateOutputMode (value : String) : Except MissiveError String :=
  let trimmed := String.ofList (JsonRedaction.trim value.toList)
  if trimmed.isEmpty then
    .error (MissiveError.validation "--accepted-output-mode values cannot be empty")
  else if trimmed.utf8ByteSize > 128 || trimmed.toList.any RustText.isControl then
    .error (MissiveError.validation
      s!"--accepted-output-mode value {debug trimmed} is not a valid short MIME/output mode")
  else .ok trimmed

def validateOutputModes (values : List String) : Except MissiveError (List String) :=
  values.mapM validateOutputMode

-- What `prepare_send_request` takes from other crates.
structure Encoding where
  /-- `Message::new` draws it. -/
  newMessageId : String
  /-- `serde_json::to_vec`, for the number of its bytes. -/
  encoded : SendMessageRequest → Option Nat

def serializedRequestBytes (encoding : Encoding) (request : SendMessageRequest) :
    Except MissiveError UInt64 :=
  match encoding.encoded request with
  | some bytes => usizeToU64 bytes "serialized A2A SendMessage request"
  | none =>
      .error (MissiveError.protocol "encoding A2A SendMessage request for size validation")

def requestOf (encoding : Encoding) (parts : List Part) (contextId : Option ContextId)
    (taskId : Option TaskId) (acceptedOutputModes : List String) (metadata : Metadata) :
    SendMessageRequest where
  message :=
    ⟨encoding.newMessageId, contextId.map Id.text, taskId.map Id.text, .user, parts, none, none, none⟩
  configuration :=
    if acceptedOutputModes.isEmpty then none else some ⟨some acceptedOutputModes⟩
  metadata := if metadata.entries.rows.isEmpty then none else some metadata.entries
  tenant := none

def prepareSendRequest {Path : Type} (makers : PartMakers) (files : Nat → FileSystem Path)
    (fromStr : String → Option Json) (encoding : Encoding) (args : FullSendArgs Path)
    (serviceParameters : ServiceParameters) (maxRequestBytes : UInt64) (input : StdinInput) :
    Except MissiveError PreparedSend := do
  let builtParts ← readMessageParts makers files fromStr args.toSendArgs maxRequestBytes input
  let requestMetadata ← parseMetadata fromStr args.metadata
  let requestedContextId ← optionalId .contextId args.context
  let requestedTaskId ← optionalId .taskId args.task
  let acceptedOutputModes ← validateOutputModes args.acceptedOutputModes
  let requestMessageId ← Id.new .messageId encoding.newMessageId
  let request := requestOf encoding builtParts.parts requestedContextId requestedTaskId
    acceptedOutputModes requestMetadata
  let requestBytes ← serializedRequestBytes encoding request
  enforceSizeLimit "serialized A2A SendMessage request" requestBytes maxRequestBytes
  let service ← serviceParameters.toMetadata
  .ok ⟨request, requestMessageId, requestedContextId, requestedTaskId,
    requestMetadata.merge service, acceptedOutputModes, builtParts.summaries,
    builtParts.localInputBytes, requestBytes⟩

/-! What the fields ask for. -/

inductive GivenPart where
  | message (text : String)
  | file (path : String)
  | fileBytes (path : String)
  | json (value : Json)
  | text (text : String)

def givenParts (fields : StdioMessageFields) : List GivenPart :=
  fields.message.toList.map .message ++ fields.files.map .file ++
    fields.fileBytes.map .fileBytes ++ fields.jsonParts.map .json ++ fields.textParts.map .text

-- A file is sent as it was when its part was read.
def Carries (files : Nat → FileSystem String) : GivenPart → PartContent → Prop
  | .message text, content => content = .text text
  | .file path, content =>
      ∃ turn canonicalPath fileUrl, (files turn).canonicalize path = some canonicalPath ∧
        (files turn).fromFilePath canonicalPath = some fileUrl ∧ content = .url fileUrl
  | .fileBytes path, content =>
      ∃ turn canonicalPath bytes, (files turn).canonicalize path = some canonicalPath ∧
        (files turn).read canonicalPath = some bytes ∧ content = .raw bytes
  | .json value, content => content = .data value
  | .text text, content => content = .text text

/-- The request says what the fields say. -/
structure Preserved (files : Nat → FileSystem String) (fields : StdioMessageFields)
    (request : SendMessageRequest) : Prop where
  parts : List.Forall₂ (Carries files) (givenParts fields)
    (request.message.parts.map Part.content)
  metadata : ∀ name, (request.metadata.bind fun entries => (entries.find? name).map Prod.snd) =
    fields.metadata.get name
  contextId : request.message.contextId = fields.context
  taskId : request.message.taskId = fields.task

/-- `serde_json` reads every value of the fields back from the text it writes for it. -/
def RoundTrips (toText : Json → String) (fromStr : String → Option Json)
    (fields : StdioMessageFields) : Prop :=
  (∀ value ∈ fields.jsonParts, fromStr (toText value) = some value) ∧
    ∀ entry ∈ fields.metadata.entries.rows, fromStr (toText entry.2) = some entry.2

/-! The metadata. -/

section Arguments

variable {toText : Json → String} {fromStr : String → Option Json} {metadata after : Metadata}

theorem span_plain (start rest : List Char) (plain : '=' ∉ start) :
    (start ++ '=' :: rest).span (· ≠ '=') = (start, '=' :: rest) := by
  rw [List.span_eq_takeWhile_dropWhile]
  have kept : ∀ letter ∈ start, decide (letter ≠ '=') = true := by
    intro letter member
    exact decide_eq_true fun same => plain (same ▸ member)
  rw [List.takeWhile_append_of_pos kept, List.dropWhile_append_of_pos kept]
  simp

theorem splitOnce_printed (name rawValue : String) (plain : '=' ∉ name.toList) :
    splitOnce '=' (name ++ "=" ++ rawValue) = some (name, rawValue) := by
  have letters : (name ++ "=" ++ rawValue).toList = name.toList ++ '=' :: rawValue.toList := by
    simp
  rw [splitOnce, letters, span_plain _ _ plain]
  simp

theorem splitOnce_plain {value name rawValue : String}
    (split : splitOnce '=' value = some (name, rawValue)) : '=' ∉ name.toList := by
  rw [splitOnce, List.span_eq_takeWhile_dropWhile] at split
  have apart : '=' ∉ value.toList.takeWhile (· ≠ '=') := by
    intro member
    simpa using List.mem_takeWhile_imp member
  generalize value.toList.dropWhile (· ≠ '=') = rest at split
  cases rest with
  | nil => cases split
  | cons letter later =>
      cases split
      rwa [String.toList_ofList]

theorem splitKeyValue_split {flag value : String} {pair : String × String}
    (parsed : splitKeyValue flag value = .ok pair) : splitOnce '=' value = some pair := by
  rw [splitKeyValue] at parsed
  cases split : splitOnce '=' value with
  | none => simp [split] at parsed
  | some found =>
      simp only [split] at parsed
      split_ifs at parsed
      cases parsed
      rfl

theorem insert_entries {name : String} {value : Json}
    (inserted : metadata.insert name value = .ok after) :
    after.entries = metadata.entries.put (name, value) := by
  rw [Metadata.insert] at inserted
  split at inserted
  · cases inserted
    rfl
  · cases inserted

theorem addMetadata_split {value : String}
    (ran : addMetadata fromStr metadata value = .ok after) :
    ∃ name rawValue, splitOnce '=' value = some (name, rawValue) ∧
      after.entries = metadata.entries.put (name, (fromStr rawValue).getD (.string rawValue)) := by
  obtain ⟨⟨name, rawValue⟩, parsed, inserted⟩ := except_bind_returned ran
  exact ⟨name, rawValue, splitKeyValue_split parsed, insert_entries inserted⟩

theorem addMetadata_printed {entry : String × Json} (plain : '=' ∉ entry.1.toList)
    (reads : fromStr (toText entry.2) = some entry.2)
    (ran : addMetadata fromStr metadata (metadataArg toText entry) = .ok after) :
    after.entries = metadata.entries.put entry := by
  obtain ⟨name, rawValue, split, added⟩ := addMetadata_split ran
  rw [metadataArg, splitOnce_printed _ _ plain] at split
  cases split
  rw [added, reads, Option.getD_some]

/-- Names without the sign `=` are read back, each with its value. -/
theorem parseMetadata_printed {entries : List (String × Json)}
    (plain : ∀ entry ∈ entries, '=' ∉ entry.1.toList)
    (reads : ∀ entry ∈ entries, fromStr (toText entry.2) = some entry.2)
    (ran : (entries.map (metadataArg toText)).foldlM (addMetadata fromStr) metadata = .ok after) :
    after.entries = entries.foldl Table.put metadata.entries := by
  induction entries generalizing metadata with
  | nil =>
      cases ran
      rfl
  | cons entry rest ih =>
      rw [List.map_cons, List.foldlM_cons] at ran
      obtain ⟨middle, here, later⟩ := except_bind_returned ran
      have head := addMetadata_printed (plain entry List.mem_cons_self)
        (reads entry List.mem_cons_self) here
      rw [ih (fun other member => plain other (List.mem_cons_of_mem _ member))
        (fun other member => reads other (List.mem_cons_of_mem _ member)) later, head]
      rfl

-- No name that was read has the sign in it.
theorem parseMetadata_plain {values : List String}
    (ran : parseMetadata fromStr values = .ok after) :
    ∀ entry ∈ after.entries.rows, '=' ∉ entry.1.toList := by
  refine except_foldlM_keeps
    (fun metadata => ∀ entry ∈ metadata.entries.rows, '=' ∉ entry.1.toList) ?_ ?_ ran
  · intro before value after plain added entry member
    obtain ⟨name, rawValue, split, put⟩ := addMetadata_split added
    rw [put, Table.mem_put] at member
    rcases member with rfl | ⟨old, _⟩
    · exact splitOnce_plain split
    · exact plain entry old
  · simp [Metadata.new, Table.empty]

end Arguments

/-! The parts. -/

section Request

variable {toText : Json → String} {makers : PartMakers} {files : Nat → FileSystem String}
  {fromStr : String → Option Json} {encoding : Encoding} {fields : StdioMessageFields}
  {serviceParameters : ServiceParameters} {limit : UInt64} {input : StdinInput}
  {prepared : PreparedSend}

def lowered (toText : Json → String) : GivenPart → LocalInput String
  | .message text => .message text
  | .file path => .file path
  | .fileBytes path => .fileBytes path
  | .json value => .jsonPart (toText value)
  | .text text => .textPart ("text=" ++ text)

theorem localInputs_lowered (fields : StdioMessageFields) :
    localInputs (sendArgsFromStdio toText fields).toSendArgs =
      (givenParts fields).map (lowered toText) := by
  simp [localInputs, sendArgsFromStdio, givenParts, lowered, Function.comp_def]

theorem givenPart_carried {given : GivenPart} {content : PartContent} {localBytes : UInt64}
    (reads : ∀ value, given = .json value → fromStr (toText value) = some value)
    (holds : Holds files fromStr input content localBytes (lowered toText given)) :
    Carries files given content := by
  cases given with
  | message text => exact holds.1
  | file path =>
      obtain ⟨turn, canonicalPath, _, fileUrl, resolved, _, located, sent, _⟩ := holds
      exact ⟨turn, canonicalPath, fileUrl, resolved, located, sent⟩
  | fileBytes path =>
      obtain ⟨turn, canonicalPath, bytes, resolved, loaded, sent, _⟩ := holds
      exact ⟨turn, canonicalPath, bytes, resolved, loaded, sent⟩
  | json value =>
      obtain ⟨found, parsed, sent, _⟩ := holds
      cases (reads value rfl).symm.trans parsed
      exact sent
  | text text =>
      obtain ⟨found, same, sent, _⟩ := holds
      have whole := congrArg String.toList same
      rw [textPartPrefix, String.toList_append, String.toList_append] at whole
      rw [String.toList_inj.mp (List.append_cancel_left whole)]
      exact sent

theorem parts_carried (documented : makers.Documented) {built : BuiltMessageParts}
    (reads : ∀ value ∈ fields.jsonParts, fromStr (toText value) = some value)
    (accepted : readMessageParts makers files fromStr (sendArgsFromStdio toText fields).toSendArgs
      limit input = .ok built) :
    List.Forall₂ (Carries files) (givenParts fields) (built.parts.map Part.content) := by
  obtain ⟨building, specs, builds, _, retyped, rfl⟩ := readMessageParts_built documented accepted
  have described := described_retyped builds.described retyped
  rw [localInputs_lowered, List.forall₂_map_left_iff] at described
  rw [List.map_map, List.forall₂_map_right_iff]
  have known : ∀ given ∈ givenParts fields,
      ∀ value, given = .json value → fromStr (toText value) = some value := by
    intro given member value same
    subst same
    exact reads value (by simpa [givenParts] using member)
  exact ((List.forall₂_and_left _ _).mpr ⟨known, described⟩).imp
    fun given spec both => givenPart_carried both.1 both.2.holds

theorem optionalId_text {kind : IdKind} {value : Option String} {id : Option (Id kind)}
    (made : optionalId kind value = .ok id) : id.map Id.text = value := by
  cases value with
  | none =>
      cases made
      rfl
  | some value =>
      cases parsed : Id.new kind value with
      | error error => simp [optionalId, parsed, Except.map] at made
      | ok found =>
          simp only [optionalId, parsed, Except.map, Except.ok.injEq] at made
          subst made
          exact congrArg some (Id.text_of_new parsed)

/-- What a prepared request was made of. -/
theorem prepareSendRequest_made {args : FullSendArgs String}
    (ran : prepareSendRequest makers files fromStr encoding args serviceParameters limit input =
      .ok prepared) :
    ∃ built metadata contextId taskId modes,
      readMessageParts makers files fromStr args.toSendArgs limit input = .ok built ∧
      parseMetadata fromStr args.metadata = .ok metadata ∧
      contextId.map Id.text = args.context ∧ taskId.map Id.text = args.task ∧
      prepared.request = requestOf encoding built.parts contextId taskId modes metadata := by
  obtain ⟨built, read, ran⟩ := except_bind_returned ran
  obtain ⟨metadata, parsed, ran⟩ := except_bind_returned ran
  obtain ⟨contextId, context, ran⟩ := except_bind_returned ran
  obtain ⟨taskId, task, ran⟩ := except_bind_returned ran
  obtain ⟨modes, _, ran⟩ := except_bind_returned ran
  obtain ⟨_, _, ran⟩ := except_bind_returned ran
  obtain ⟨_, _, ran⟩ := except_bind_returned ran
  obtain ⟨_, _, ran⟩ := except_bind_returned ran
  obtain ⟨_, _, returned⟩ := except_bind_returned ran
  cases returned
  exact ⟨built, metadata, contextId, taskId, modes, read, parsed, optionalId_text context,
    optionalId_text task, rfl⟩

theorem requestOf_metadata (parts : List Part) (contextId : Option ContextId)
    (taskId : Option TaskId) (modes : List String) (metadata : Metadata) (name : String) :
    (((requestOf encoding parts contextId taskId modes metadata).metadata.bind fun entries =>
      (entries.find? name).map Prod.snd)) = metadata.get name := by
  by_cases empty : metadata.entries.rows.isEmpty = true
  · have none_ : metadata.entries.find? name = none := by
      rw [Table.find?, List.isEmpty_iff.mp empty, List.find?_nil]
    simp [requestOf, empty, Metadata.get, none_]
  · simp [requestOf, empty, Metadata.get]

/-- A prepared request says what the fields say exactly if no name of the metadata has the sign `=`
in it. -/
theorem lowering_preserves_iff (documented : makers.Documented)
    (reads : RoundTrips toText fromStr fields)
    (ran : prepareSendRequest makers files fromStr encoding (sendArgsFromStdio toText fields)
      serviceParameters limit input = .ok prepared) :
    Preserved files fields prepared.request ↔
      ∀ entry ∈ fields.metadata.entries.rows, '=' ∉ entry.1.toList := by
  obtain ⟨built, metadata, contextId, taskId, modes, read, parsed, context, task, request⟩ :=
    prepareSendRequest_made ran
  rw [request]
  constructor
  · intro preserved entry member
    have asked : fields.metadata.get entry.1 = some entry.2 := by
      have found := fields.metadata.entries.find?_self entry member
      rw [Metadata.get, show fields.metadata.entries.find? entry.1 = some entry from found]
      rfl
    have sent := preserved.metadata entry.1
    rw [requestOf_metadata, asked, Metadata.get, Option.map_eq_some_iff] at sent
    obtain ⟨row, found, _⟩ := sent
    have ⟨stored, same⟩ := (metadata.entries.find?_eq_some entry.1 row).mp found
    have named : row.1 = entry.1 := same
    rw [← named]
    exact parseMetadata_plain parsed row stored
  · intro plain
    have entries := parseMetadata_printed plain reads.2 parsed
    have same : metadata.entries = fields.metadata.entries :=
      entries.trans fields.metadata.entries.foldl_put_rows
    constructor
    · exact parts_carried documented reads.1 read
    · intro name
      rw [requestOf_metadata, Metadata.get, Metadata.get, same]
    · exact context
    · exact task

end Request

def plainEncoding : Encoding := ⟨"m-1", fun _ => some 100⟩

def version : ServiceParameters := ⟨"1.0", [], []⟩

def nullText : Json → String
  | .null => "null"
  | _ => "{}"

theorem trace_passes : metadataKeyReason "trace" = none := by decide

theorem assignment_passes : metadataKeyReason "a=b" = none := by decide

def annotated (name : String) (passes : metadataKeyReason name = none) : StdioMessageFields :=
  ⟨"helper", some "Hi", ["more"], [.null], [], [], [], Metadata.new.insertValid name .null passes,
    some "c-1", none, []⟩

theorem annotated_roundTrips (name : String) (passes : metadataKeyReason name = none) :
    RoundTrips nullText nullOnly (annotated name passes) := by
  constructor
  · intro value member
    cases List.mem_singleton.mp member
    rfl
  · intro entry member
    cases List.mem_singleton.mp member
    rfl

def sendAnnotated (name : String) (passes : metadataKeyReason name = none) :
    Except MissiveError PreparedSend :=
  prepareSendRequest plainMakers (fun _ => noteDisk) nullOnly plainEncoding
    (sendArgsFromStdio nullText (annotated name passes)) version 1000 ⟨[], false⟩

theorem traced_message_preserved :
    ∃ prepared, sendAnnotated "trace" trace_passes = .ok prepared ∧
      Preserved (fun _ => noteDisk) (annotated "trace" trace_passes) prepared.request := by
  obtain ⟨prepared, ran⟩ : ∃ prepared, sendAnnotated "trace" trace_passes = .ok prepared :=
    ⟨_, rfl⟩
  refine ⟨prepared, ran, (lowering_preserves_iff plainMakers_documented
    (annotated_roundTrips "trace" trace_passes) ran).mpr ?_⟩
  intro entry member
  cases List.mem_singleton.mp member
  decide

/-- The name `a=b` of a value is read back as the name `a`. -/
theorem assignment_name_lost :
    ¬ ∀ fields : StdioMessageFields, fields.validate "send" = .ok () →
      RoundTrips nullText nullOnly fields → ∀ prepared,
      prepareSendRequest plainMakers (fun _ => noteDisk) nullOnly plainEncoding
        (sendArgsFromStdio nullText fields) version 1000 ⟨[], false⟩ = .ok prepared →
      Preserved (fun _ => noteDisk) fields prepared.request := by
  intro preserves
  have valid : (annotated "a=b" assignment_passes).validate "send" = .ok () := by decide
  obtain ⟨prepared, ran, lost⟩ :
      ∃ prepared, sendAnnotated "a=b" assignment_passes = .ok prepared ∧
        (prepared.request.metadata.bind fun entries => (entries.find? "a=b").map Prod.snd) = none :=
    ⟨_, rfl, rfl⟩
  have preserved := preserves _ valid (annotated_roundTrips "a=b" assignment_passes) prepared ran
  have sent := lost.symm.trans (preserved.metadata "a=b")
  cases sent

end Missive.AdapterLowering
