import Mathlib.Algebra.BigOperators.Group.List.Basic
import Mathlib.Algebra.GroupWithZero.Nat
import Mathlib.Data.List.Forall2
import Missive.Artifacts
import Missive.ByteLines
import Missive.EventReplay
import Missive.JsonRedaction

/-! The parts of a message to send. `read_message_parts` takes them from the command line, the
standard input and local files, all on one budget of bytes, and then gives them their media types.
What `serde_json`, the file system and the constructors of the A2A parts do comes from outside; the
files may change from one part to the next. -/
namespace Missive.SendInputs

open RustText JsonValue Missive.Core Artifacts

/-! The budget. -/

structure InputBudget where
  limit : UInt64
  used : UInt64

def InputBudget.new (limit : UInt64) : InputBudget := ⟨limit, 0⟩

def checkedAdd (first last : UInt64) : Option UInt64 :=
  if first.toNat + last.toNat < 2 ^ 64 then some (first + last) else none

def saturatingSub (first last : UInt64) : UInt64 := if last ≤ first then first - last else 0

def enforceSizeLimit (source : String) (bytes limit : UInt64) : Except MissiveError Unit :=
  if bytes > limit then
    .error ((MissiveError.validation (s!"{source} is {bytes} bytes, exceeding the selected " ++
      s!"profile qos.max_request_bytes limit of {limit} bytes")).withHelp
      ("Use a smaller input or raise qos.max_request_bytes in the selected profile. " ++
        "Streaming/chunked file upload is not implemented yet."))
  else .ok ()

def InputBudget.add (budget : InputBudget) (source : String) (bytes : UInt64) :
    Except MissiveError InputBudget := do
  enforceSizeLimit source bytes budget.limit
  match checkedAdd budget.used bytes with
  | none => .error (MissiveError.validation "message input byte accounting overflowed")
  | some next =>
      if next > budget.limit then
        .error ((MissiveError.validation (s!"message inputs are {next} bytes in total, " ++
          s!"exceeding the selected profile qos.max_request_bytes limit of " ++
          s!"{budget.limit} bytes")).withHelp
          ("Use smaller inputs, lower fidelity attachments, file references, or raise " ++
            "qos.max_request_bytes in the selected profile."))
      else .ok { budget with used := next }

def InputBudget.remainingWithSentinel (budget : InputBudget) : UInt64 :=
  saturatingSucc (saturatingSub budget.limit budget.used)

def usizeToU64 (value : Nat) (source : String) : Except MissiveError UInt64 :=
  if value < 2 ^ 64 then .ok (UInt64.ofNat value)
  else .error (MissiveError.validation s!"{source} byte count does not fit into u64")

/-! The parts. -/

structure MessagePartSummary where
  kind : String
  source : String
  localBytes : UInt64
  filename : Option String
  mediaType : Option String

structure PartSpec where
  part : Part
  summary : MessagePartSummary
  defaultMimeTarget : Bool

structure BuiltMessageParts where
  parts : List Part
  summaries : List MessagePartSummary
  localInputBytes : UInt64

-- The constructors of the A2A type.
structure PartMakers where
  text : String → Part
  url : String → Part
  raw : List UInt8 → Part
  data : Json → Part
  withFilename : Part → String → Part
  withMediaType : Part → String → Part

structure FileMetadata where
  isFile : Bool
  len : UInt64

structure FileSystem (Path : Type) where
  isEmpty : Path → Bool
  display : Path → String
  canonicalize : Path → Option Path
  metadata : Path → Option FileMetadata
  -- `file_name().and_then(|value| value.to_str())`
  fileName : Path → Option String
  fromFilePath : Path → Option String
  read : Path → Option (List UInt8)

structure LocalFileInput (Path : Type) where
  canonicalPath : Path
  fileUrl : String
  filename : String
  len : UInt64

structure SendArgs (Path : Type) where
  message : Option String
  stdin : Bool
  files : List Path
  fileBytes : List Path
  jsonParts : List String
  mime : List String
  parts : List String

-- The bytes of the standard input up to its end, or up to where a read fails.
structure StdinInput where
  bytes : List UInt8
  fails : Bool

def ioError (context : String) : MissiveError := ⟨.io, context, none⟩

-- No allocation is larger.
def isizeMax : Nat := 2 ^ 63 - 1

-- `input.take(count).read_to_string(&mut text)`
def readTaken (input : StdinInput) (count : UInt64) : Except MissiveError String :=
  let taken := input.bytes.take count.toNat
  if (input.fails && taken.length < count.toNat) || isizeMax < taken.length then
    .error (ioError "reading --stdin text")
  else
    match ByteLines.decode taken with
    | some text => .ok text
    | none => .error (ioError "reading --stdin text")

def jsonPartDefaultMediaType : String := "application/json"

section Specs

variable {Path : Type} (makers : PartMakers) (files : FileSystem Path)
  (fromStr : String → Option Json)

def textPartSpec (source text : String) (budget : InputBudget) :
    Except MissiveError (PartSpec × InputBudget) :=
  if text.isEmpty then
    .error (MissiveError.validation s!"{source} cannot be empty for message input")
  else do
    let bytes ← usizeToU64 text.utf8ByteSize source
    let charged ← budget.add source bytes
    .ok (⟨makers.text text, ⟨"text", source, bytes, none, none⟩, false⟩, charged)

def safeFilename (path : Path) : Option String :=
  (files.fileName path).filter fun value => !value.isEmpty && !value.toList.any isControl

def validateLocalFile (flag : String) (path : Path) (maxRequestBytes : UInt64) :
    Except MissiveError (LocalFileInput Path) :=
  if files.isEmpty path then .error (MissiveError.validation s!"{flag} path cannot be empty")
  else
    match files.canonicalize path with
    | none =>
        .error ((ioError s!"resolving {flag} {files.display path}").withHelp
          "Use an existing local file path. Directories and missing paths are rejected.")
    | some canonicalPath =>
        match files.metadata canonicalPath with
        | none =>
            .error (ioError s!"reading metadata for {flag} {files.display canonicalPath}")
        | some metadata =>
            if !metadata.isFile then
              .error ((MissiveError.validation
                s!"{flag} {files.display canonicalPath} is not a regular file").withHelp
                "Use a regular local file; directories, sockets, and special files are rejected.")
            else do
              enforceSizeLimit s!"{flag} {files.display canonicalPath}" metadata.len maxRequestBytes
              match safeFilename files canonicalPath with
              | none =>
                  .error ((MissiveError.validation (s!"{flag} {files.display canonicalPath} " ++
                    "does not have a safe UTF-8 filename")).withHelp
                    ("Use a file whose final path component is valid UTF-8 without control " ++
                      "characters."))
              | some filename =>
                  match files.fromFilePath canonicalPath with
                  | none =>
                      .error (MissiveError.validation (s!"{flag} {files.display canonicalPath} " ++
                        "cannot be represented as a file:// URL"))
                  | some fileUrl => .ok ⟨canonicalPath, fileUrl, filename, metadata.len⟩

def fileReferencePartSpec (path : Path) (budget : InputBudget) :
    Except MissiveError (PartSpec × InputBudget) := do
  let file ← validateLocalFile files "--file" path budget.limit
  let charged ← budget.add s!"--file {files.display path}" file.len
  .ok (⟨makers.withFilename (makers.url file.fileUrl) file.filename,
    ⟨"file_reference", "--file", file.len, some file.filename, none⟩, true⟩, charged)

def readFile (path : Path) : Except MissiveError (List UInt8) :=
  match files.read path with
  | some bytes => .ok bytes
  | none => .error (ioError s!"reading --file-bytes {files.display path}")

def fileBytesPartSpec (path : Path) (budget : InputBudget) :
    Except MissiveError (PartSpec × InputBudget) := do
  let file ← validateLocalFile files "--file-bytes" path budget.limit
  let bytes ← readFile files file.canonicalPath
  let byteCount ← usizeToU64 bytes.length "--file-bytes"
  let charged ← budget.add s!"--file-bytes {files.display path}" byteCount
  .ok (⟨makers.withFilename (makers.raw bytes) file.filename,
    ⟨"file_bytes", "--file-bytes", byteCount, some file.filename, none⟩, true⟩, charged)

def parseJson (rawJson : String) : Except MissiveError Json :=
  match fromStr rawJson with
  | some value => .ok value
  | none =>
      .error ((MissiveError.validation "--json-part must be valid JSON").withHelp
        "Pass an inline JSON value such as '\x7b\"kind\":\"example\"\x7d' or '[1,2,3]'.")

def jsonPartSpec (rawJson : String) (budget : InputBudget) :
    Except MissiveError (PartSpec × InputBudget) :=
  if (JsonRedaction.trim rawJson.toList).isEmpty then
    .error (MissiveError.validation "--json-part cannot be empty")
  else do
    let byteCount ← usizeToU64 rawJson.utf8ByteSize "--json-part"
    let charged ← budget.add "--json-part" byteCount
    let value ← parseJson fromStr rawJson
    .ok (⟨makers.withMediaType (makers.data value) jsonPartDefaultMediaType,
      ⟨"data", "--json-part", byteCount, none, some jsonPartDefaultMediaType⟩, true⟩, charged)

end Specs

/-! The media types. -/

def validateMimeValue (value : String) : Except MissiveError String :=
  let trimmed := String.ofList (JsonRedaction.trim value.toList)
  if trimmed.isEmpty then .error (MissiveError.validation "--mime values cannot be empty")
  else if trimmed.utf8ByteSize > 128 || trimmed.toList.any isControl ||
      trimmed.toList.any isWhitespace || !trimmed.toList.contains '/' then
    .error ((MissiveError.validation
      s!"--mime value {debug trimmed} is not a valid compact MIME media type").withHelp
      ("Use values such as text/plain, application/json, image/png, or " ++
        "application/octet-stream."))
  else .ok trimmed

def setPartMediaType (mediaType : String) (spec : PartSpec) : PartSpec :=
  { spec with
    part := { spec.part with mediaType := some mediaType }
    summary := { spec.summary with mediaType := some mediaType } }

def defaultTargets (specs : List PartSpec) : List Nat :=
  (List.range specs.length).filter fun index => (specs[index]?).any PartSpec.defaultMimeTarget

def targetIndices (specs : List PartSpec) : List Nat :=
  if (defaultTargets specs).isEmpty then List.range specs.length else defaultTargets specs

-- `specs[index]` for one target after the other.
def assignTargets (specs : List PartSpec) (assignments : List (Nat × String)) : List PartSpec :=
  assignments.foldl (fun specs assigned =>
    specs.modify assigned.1 (setPartMediaType assigned.2)) specs

def assignMediaTypes (specs : List PartSpec) (mediaTypes : List String) :
    Except MissiveError (List PartSpec) :=
  let targets := targetIndices specs
  match mediaTypes with
  | [] => .ok specs
  | [mediaType] => .ok (assignTargets specs (targets.map fun index => (index, mediaType)))
  | _ =>
      if mediaTypes.length = targets.length then .ok (assignTargets specs (targets.zip mediaTypes))
      else if mediaTypes.length = specs.length then
        .ok (List.zipWith (fun spec mediaType => setPartMediaType mediaType spec) specs mediaTypes)
      else
        .error ((MissiveError.validation (s!"--mime was provided {mediaTypes.length} times for " ++
          s!"{specs.length} message parts and {targets.length} file/JSON parts")).withHelp
          ("Pass one --mime value for all file/JSON parts, one value per file/JSON part, or one " ++
            "value per message part."))

def applyMimeAssignments (specs : List PartSpec) (values : List String) :
    Except MissiveError (List PartSpec) := do
  let mediaTypes ← values.mapM validateMimeValue
  assignMediaTypes specs mediaTypes

/-! The message. -/

structure Building where
  budget : InputBudget
  specs : List PartSpec

def Building.push (building : Building)
    (spec : InputBudget → Except MissiveError (PartSpec × InputBudget)) :
    Except MissiveError Building := do
  let made ← spec building.budget
  .ok ⟨made.2, building.specs ++ [made.1]⟩

def textPartPrefix : String := "text="

def textValue (part : String) : Except MissiveError String :=
  match EventReplay.stripPrefix textPartPrefix.toList part.toList with
  | some text => .ok (String.ofList text)
  | none =>
      .error ((MissiveError.validation s!"--part value {debug part} is not supported").withHelp
        ("Use --part text=VALUE, or use --json-part/--file/--file-bytes for structured and file " ++
          "content."))

section Message

variable {Path : Type} (makers : PartMakers) (files : Nat → FileSystem Path)
  (fromStr : String → Option Json)

def addMessage (building : Building) : Option String → Except MissiveError Building
  | some message => building.push (textPartSpec makers "message" message)
  | none => .ok building

def addStdin (input : StdinInput) (building : Building) : Bool → Except MissiveError Building
  | true => do
      let text ← readTaken input building.budget.remainingWithSentinel
      building.push (textPartSpec makers "--stdin" text)
  | false => .ok building

-- The file system as it stands when the next part is read.
def addFile (building : Building) (path : Path) : Except MissiveError Building :=
  building.push (fileReferencePartSpec makers (files building.specs.length) path)

def addFileBytes (building : Building) (path : Path) : Except MissiveError Building :=
  building.push (fileBytesPartSpec makers (files building.specs.length) path)

def addJsonPart (building : Building) (rawJson : String) : Except MissiveError Building :=
  building.push (jsonPartSpec makers fromStr rawJson)

def addPart (building : Building) (part : String) : Except MissiveError Building := do
  let text ← textValue part
  building.push (textPartSpec makers "--part text=" text)

def readSpecs (args : SendArgs Path) (maxRequestBytes : UInt64) (input : StdinInput) :
    Except MissiveError Building := do
  let messaged ← addMessage makers ⟨InputBudget.new maxRequestBytes, []⟩ args.message
  let piped ← addStdin makers input messaged args.stdin
  let referenced ← args.files.foldlM (addFile makers files) piped
  let loaded ← args.fileBytes.foldlM (addFileBytes makers files) referenced
  let parsed ← args.jsonParts.foldlM (addJsonPart makers fromStr) loaded
  args.parts.foldlM (addPart makers) parsed

def readMessageParts (args : SendArgs Path) (maxRequestBytes : UInt64) (input : StdinInput) :
    Except MissiveError BuiltMessageParts := do
  let building ← readSpecs makers files fromStr args maxRequestBytes input
  if building.specs.isEmpty then
    .error (MissiveError.validation ("missive send requires a message, --stdin, --file, " ++
      "--file-bytes, --json-part, or --part text=VALUE"))
  else do
    let specs ← applyMimeAssignments building.specs args.mime
    .ok ⟨specs.map PartSpec.part, specs.map PartSpec.summary, building.budget.used⟩

end Message

/-! What the parts describe. -/

inductive LocalInput (Path : Type) where
  | message (text : String)
  | stdin
  | file (path : Path)
  | fileBytes (path : Path)
  | jsonPart (rawJson : String)
  | textPart (part : String)

def LocalInput.kind {Path : Type} : LocalInput Path → String
  | .message _ | .stdin | .textPart _ => "text"
  | .file _ => "file_reference"
  | .fileBytes _ => "file_bytes"
  | .jsonPart _ => "data"

def LocalInput.source {Path : Type} : LocalInput Path → String
  | .message _ => "message"
  | .stdin => "--stdin"
  | .file _ => "--file"
  | .fileBytes _ => "--file-bytes"
  | .jsonPart _ => "--json-part"
  | .textPart _ => "--part text="

def localInputs {Path : Type} (args : SendArgs Path) : List (LocalInput Path) :=
  args.message.toList.map .message ++ (if args.stdin then [.stdin] else []) ++
    args.files.map .file ++ args.fileBytes.map .fileBytes ++
    args.jsonParts.map .jsonPart ++ args.parts.map .textPart

/-- The constructors of the A2A type give a part the content they are called with and no media
type; the other two change the one field they are named after. -/
structure PartMakers.Documented (makers : PartMakers) : Prop where
  text text : (makers.text text).content = .text text ∧ (makers.text text).mediaType = none
  url url : (makers.url url).content = .url url ∧ (makers.url url).mediaType = none
  raw bytes : (makers.raw bytes).content = .raw bytes ∧ (makers.raw bytes).mediaType = none
  data value : (makers.data value).content = .data value ∧ (makers.data value).mediaType = none
  filename part filename :
    makers.withFilename part filename = { part with filename := some filename }
  mediaType part mediaType :
    makers.withMediaType part mediaType = { part with mediaType := some mediaType }

section Exact

variable {Path : Type} (files : Nat → FileSystem Path) (fromStr : String → Option Json)
  (input : StdinInput)

-- The content of the part and the bytes its summary counts are those of the input.
def Holds (content : PartContent) (localBytes : UInt64) : LocalInput Path → Prop
  | .message text => content = .text text ∧ localBytes.toNat = text.utf8ByteSize
  | .stdin =>
      ∃ text, ByteLines.utf8 text.toList = input.bytes ∧ content = .text text ∧
        localBytes.toNat = input.bytes.length
  | .file path =>
      ∃ turn canonicalPath metadata fileUrl,
        (files turn).canonicalize path = some canonicalPath ∧
        (files turn).metadata canonicalPath = some metadata ∧
        (files turn).fromFilePath canonicalPath = some fileUrl ∧
        content = .url fileUrl ∧ localBytes = metadata.len
  | .fileBytes path =>
      ∃ turn canonicalPath bytes,
        (files turn).canonicalize path = some canonicalPath ∧
        (files turn).read canonicalPath = some bytes ∧
        content = .raw bytes ∧ localBytes.toNat = bytes.length
  | .jsonPart rawJson =>
      ∃ value, fromStr rawJson = some value ∧ content = .data value ∧
        localBytes.toNat = rawJson.utf8ByteSize
  | .textPart part =>
      ∃ text, part = textPartPrefix ++ text ∧ content = .text text ∧
        localBytes.toNat = text.utf8ByteSize

structure Describes (given : LocalInput Path) (made : Part × MessagePartSummary) : Prop where
  kind : made.2.kind = given.kind
  source : made.2.source = given.source
  holds : Holds files fromStr input made.1.content made.2.localBytes given

structure Exact (args : SendArgs Path) (limit : UInt64) (built : BuiltMessageParts) : Prop where
  described : List.Forall₂ (Describes files fromStr input) (localInputs args)
    (built.parts.zip built.summaries)
  paired : built.summaries.length = built.parts.length
  mediaTypes :
    built.parts.map Part.mediaType = built.summaries.map MessagePartSummary.mediaType
  total : built.localInputBytes.toNat =
    (built.summaries.map fun summary => summary.localBytes.toNat).sum
  within : built.localInputBytes ≤ limit
  ended : args.stdin = true → input.fails = false

end Exact

/-! The accounting. -/

open Effects

theorem checkedAdd_toNat {first last next : UInt64} (added : checkedAdd first last = some next) :
    next.toNat = first.toNat + last.toNat := by
  by_cases small : first.toNat + last.toNat < 2 ^ 64
  · rw [checkedAdd, if_pos small] at added
    cases added
    rw [UInt64.toNat_add, Nat.mod_eq_of_lt small]
  · rw [checkedAdd, if_neg small] at added
    cases added

-- What is charged is counted in full, and is never more than the limit.
theorem add_charged {budget charged : InputBudget} {source : String} {bytes : UInt64}
    (added : budget.add source bytes = .ok charged) :
    charged.limit = budget.limit ∧ charged.used.toNat = budget.used.toNat + bytes.toNat ∧
      charged.used ≤ charged.limit := by
  obtain ⟨_, _, counted⟩ := except_bind_returned added
  cases found : checkedAdd budget.used bytes with
  | none => simp [found] at counted
  | some next =>
      by_cases exceeds : next > budget.limit
      · simp [found, exceeds] at counted
      · simp only [found, if_neg exceeds, Except.ok.injEq] at counted
        subst counted
        exact ⟨rfl, checkedAdd_toNat found, UInt64.not_lt.mp exceeds⟩

theorem usize_counted {value : Nat} {source : String} {bytes : UInt64}
    (counted : usizeToU64 value source = .ok bytes) : bytes.toNat = value := by
  by_cases small : value < 2 ^ 64
  · simp only [usizeToU64, if_pos small, Except.ok.injEq] at counted
    subst counted
    exact UInt64.toNat_ofNat_of_lt' small
  · rw [usizeToU64, if_neg small] at counted
    cases counted

/-! Each part on its own. -/

section Specs

variable {Path : Type} {makers : PartMakers} {files : FileSystem Path}
  {fromStr : String → Option Json} {budget : InputBudget} {made : PartSpec × InputBudget}

theorem text_part_spec_made {source text : String}
    (built : textPartSpec makers source text budget = .ok made) :
    ∃ bytes, bytes.toNat = text.utf8ByteSize ∧ budget.add source bytes = .ok made.2 ∧
      made.1 = ⟨makers.text text, ⟨"text", source, bytes, none, none⟩, false⟩ := by
  by_cases empty : text.isEmpty
  · simp [textPartSpec, empty] at built
  · rw [textPartSpec, if_neg empty] at built
    obtain ⟨bytes, counted, rest⟩ := except_bind_returned built
    obtain ⟨charged, added, returned⟩ := except_bind_returned rest
    cases returned
    exact ⟨bytes, usize_counted counted, added, rfl⟩

theorem validate_local_file_found {flag : String} {path : Path} {limit : UInt64}
    {file : LocalFileInput Path} (valid : validateLocalFile files flag path limit = .ok file) :
    files.canonicalize path = some file.canonicalPath ∧
      (∃ metadata, files.metadata file.canonicalPath = some metadata ∧ file.len = metadata.len) ∧
      files.fromFilePath file.canonicalPath = some file.fileUrl := by
  by_cases empty : files.isEmpty path
  · simp [validateLocalFile, empty] at valid
  cases resolved : files.canonicalize path with
  | none => simp [validateLocalFile, empty, resolved] at valid
  | some canonicalPath =>
    cases stated : files.metadata canonicalPath with
    | none => simp [validateLocalFile, empty, resolved, stated] at valid
    | some metadata =>
      by_cases regular : metadata.isFile
      · simp only [validateLocalFile, empty, resolved, stated, regular] at valid
        obtain ⟨_, _, named⟩ := except_bind_returned valid
        cases safe : safeFilename files canonicalPath with
        | none => simp [safe] at named
        | some filename =>
          cases located : files.fromFilePath canonicalPath with
          | none => simp [safe, located] at named
          | some fileUrl =>
            simp only [safe, located, Except.ok.injEq] at named
            subst named
            exact ⟨rfl, ⟨metadata, stated, rfl⟩, located⟩
      · simp [validateLocalFile, empty, resolved, stated, regular] at valid

theorem file_reference_part_spec_made {path : Path}
    (built : fileReferencePartSpec makers files path budget = .ok made) :
    ∃ file, validateLocalFile files "--file" path budget.limit = .ok file ∧
      budget.add s!"--file {files.display path}" file.len = .ok made.2 ∧
      made.1 = ⟨makers.withFilename (makers.url file.fileUrl) file.filename,
        ⟨"file_reference", "--file", file.len, some file.filename, none⟩, true⟩ := by
  obtain ⟨file, valid, rest⟩ := except_bind_returned built
  obtain ⟨charged, added, returned⟩ := except_bind_returned rest
  cases returned
  exact ⟨file, valid, added, rfl⟩

theorem file_bytes_part_spec_made {path : Path}
    (built : fileBytesPartSpec makers files path budget = .ok made) :
    ∃ file bytes byteCount, validateLocalFile files "--file-bytes" path budget.limit = .ok file ∧
      files.read file.canonicalPath = some bytes ∧ byteCount.toNat = bytes.length ∧
      budget.add s!"--file-bytes {files.display path}" byteCount = .ok made.2 ∧
      made.1 = ⟨makers.withFilename (makers.raw bytes) file.filename,
        ⟨"file_bytes", "--file-bytes", byteCount, some file.filename, none⟩, true⟩ := by
  obtain ⟨file, valid, rest⟩ := except_bind_returned built
  obtain ⟨bytes, loaded, rest⟩ := except_bind_returned rest
  obtain ⟨byteCount, counted, rest⟩ := except_bind_returned rest
  obtain ⟨charged, added, returned⟩ := except_bind_returned rest
  cases returned
  cases found : files.read file.canonicalPath with
  | none => simp [readFile, found] at loaded
  | some content =>
      simp only [readFile, found, Except.ok.injEq] at loaded
      subst loaded
      exact ⟨file, content, byteCount, valid, found, usize_counted counted, added, rfl⟩

theorem json_part_spec_made {rawJson : String}
    (built : jsonPartSpec makers fromStr rawJson budget = .ok made) :
    ∃ byteCount value, byteCount.toNat = rawJson.utf8ByteSize ∧ fromStr rawJson = some value ∧
      budget.add "--json-part" byteCount = .ok made.2 ∧
      made.1 = ⟨makers.withMediaType (makers.data value) jsonPartDefaultMediaType,
        ⟨"data", "--json-part", byteCount, none, some jsonPartDefaultMediaType⟩, true⟩ := by
  by_cases empty : (JsonRedaction.trim rawJson.toList).isEmpty
  · simp [jsonPartSpec, empty] at built
  · rw [jsonPartSpec, if_neg empty] at built
    obtain ⟨byteCount, counted, rest⟩ := except_bind_returned built
    obtain ⟨charged, added, rest⟩ := except_bind_returned rest
    obtain ⟨value, parsed, returned⟩ := except_bind_returned rest
    cases returned
    cases found : fromStr rawJson with
    | none => simp [parseJson, found] at parsed
    | some content =>
        simp only [parseJson, found, Except.ok.injEq] at parsed
        subst parsed
        exact ⟨byteCount, content, usize_counted counted, rfl, added, rfl⟩

end Specs

/-! The parts together. -/

section Builds

variable {Path : Type} (files : Nat → FileSystem Path) (fromStr : String → Option Json)
  (input : StdinInput)

structure Makes (given : LocalInput Path) (budget : InputBudget)
    (made : PartSpec × InputBudget) : Prop where
  charged : ∃ source, budget.add source made.1.summary.localBytes = .ok made.2
  described : Describes files fromStr input given (made.1.part, made.1.summary)
  typed : made.1.part.mediaType = made.1.summary.mediaType

def byteTotal (specs : List PartSpec) : Nat :=
  (specs.map fun spec => spec.summary.localBytes.toNat).sum

structure Builds (limit : UInt64) (done : List (LocalInput Path)) (building : Building) : Prop where
  kept : building.budget.limit = limit
  total : building.budget.used.toNat = byteTotal building.specs
  within : building.budget.used ≤ limit
  described : List.Forall₂
    (fun given spec => Describes files fromStr input given (spec.part, spec.summary))
    done building.specs
  typed : ∀ spec ∈ building.specs, spec.part.mediaType = spec.summary.mediaType

end Builds

section Building

variable {Path : Type} {makers : PartMakers} {files : Nat → FileSystem Path}
  {fromStr : String → Option Json} {input : StdinInput} {limit : UInt64}
  {done : List (LocalInput Path)} {building after : Building}

theorem builds_new : Builds files fromStr input limit [] ⟨InputBudget.new limit, []⟩ where
  kept := rfl
  total := rfl
  within := UInt64.zero_le
  described := .nil
  typed := nofun

theorem builds_push (builds : Builds files fromStr input limit done building)
    {given : LocalInput Path} {spec : InputBudget → Except MissiveError (PartSpec × InputBudget)}
    (makes : ∀ {made}, spec building.budget = .ok made →
      Makes files fromStr input given building.budget made)
    (pushed : building.push spec = .ok after) :
    Builds files fromStr input limit (done ++ [given]) after := by
  obtain ⟨made, built, returned⟩ := except_bind_returned pushed
  cases returned
  have ⟨⟨source, added⟩, described, typed⟩ := makes built
  have ⟨kept, counted, within⟩ := add_charged added
  constructor
  · exact kept.trans builds.kept
  · simp [counted, builds.total, byteTotal]
  · exact (kept.trans builds.kept) ▸ within
  · exact List.rel_append builds.described (.cons described .nil)
  · intro other member
    rcases List.mem_append.mp member with before | last
    · exact builds.typed other before
    · cases List.mem_singleton.mp last
      exact typed

theorem text_makes (documented : makers.Documented) {given : LocalInput Path}
    {source text : String} {budget : InputBudget} {made : PartSpec × InputBudget}
    (kind : given.kind = "text") (named : given.source = source)
    (holds : ∀ localBytes : UInt64, localBytes.toNat = text.utf8ByteSize →
      Holds files fromStr input (.text text) localBytes given)
    (built : textPartSpec makers source text budget = .ok made) :
    Makes files fromStr input given budget made := by
  obtain ⟨bytes, counted, added, spec⟩ := text_part_spec_made built
  have ⟨content, untyped⟩ := documented.text text
  obtain ⟨made, charged⟩ := made
  subst spec
  constructor
  · exact ⟨source, added⟩
  · exact ⟨kind.symm, named.symm, by simpa only [content] using holds bytes counted⟩
  · exact untyped

theorem message_makes (documented : makers.Documented) {text : String} {budget : InputBudget}
    {made : PartSpec × InputBudget} (built : textPartSpec makers "message" text budget = .ok made) :
    Makes files fromStr input (.message text) budget made :=
  text_makes documented rfl rfl (fun _ counted => ⟨rfl, counted⟩) built

theorem file_makes (documented : makers.Documented) {turn : Nat} {path : Path}
    {budget : InputBudget} {made : PartSpec × InputBudget}
    (built : fileReferencePartSpec makers (files turn) path budget = .ok made) :
    Makes files fromStr input (.file path) budget made := by
  obtain ⟨file, valid, added, spec⟩ := file_reference_part_spec_made built
  obtain ⟨resolved, ⟨metadata, stated, sized⟩, located⟩ := validate_local_file_found valid
  have ⟨content, untyped⟩ := documented.url file.fileUrl
  obtain ⟨made, charged⟩ := made
  rw [documented.filename] at spec
  subst spec
  constructor
  · exact ⟨_, added⟩
  · exact ⟨rfl, rfl, turn, file.canonicalPath, metadata, file.fileUrl, resolved, stated, located,
      content, sized⟩
  · exact untyped

theorem file_bytes_makes (documented : makers.Documented) {turn : Nat} {path : Path}
    {budget : InputBudget} {made : PartSpec × InputBudget}
    (built : fileBytesPartSpec makers (files turn) path budget = .ok made) :
    Makes files fromStr input (.fileBytes path) budget made := by
  obtain ⟨file, bytes, byteCount, valid, loaded, counted, added, spec⟩ :=
    file_bytes_part_spec_made built
  have ⟨resolved, _, _⟩ := validate_local_file_found valid
  have ⟨content, untyped⟩ := documented.raw bytes
  obtain ⟨made, charged⟩ := made
  rw [documented.filename] at spec
  subst spec
  constructor
  · exact ⟨_, added⟩
  · exact ⟨rfl, rfl, turn, file.canonicalPath, bytes, resolved, loaded, content, counted⟩
  · exact untyped

theorem json_makes (documented : makers.Documented) {rawJson : String} {budget : InputBudget}
    {made : PartSpec × InputBudget}
    (built : jsonPartSpec makers fromStr rawJson budget = .ok made) :
    Makes files fromStr input (.jsonPart rawJson) budget made := by
  obtain ⟨byteCount, value, counted, parsed, added, spec⟩ := json_part_spec_made built
  have ⟨content, _⟩ := documented.data value
  obtain ⟨made, charged⟩ := made
  rw [documented.mediaType] at spec
  subst spec
  constructor
  · exact ⟨_, added⟩
  · exact ⟨rfl, rfl, value, parsed, content, counted⟩
  · rfl

theorem text_value_stripped {part text : String} (stripped : textValue part = .ok text) :
    part = textPartPrefix ++ text := by
  by_cases given : textPartPrefix.toList.isPrefixOf part.toList
  · rw [textValue, EventReplay.stripPrefix, if_pos given] at stripped
    obtain ⟨rest, cut⟩ := List.isPrefixOf_iff_prefix.mp given
    rw [← cut, List.drop_left] at stripped
    cases stripped
    exact String.toList_inj.mp (by simp [← cut])
  · simp [textValue, EventReplay.stripPrefix, given] at stripped

/-! The standard input. -/

theorem saturatingSub_toNat {first last : UInt64} (within : last ≤ first) :
    (saturatingSub first last).toNat = first.toNat - last.toNat := by
  rw [saturatingSub, if_pos within, UInt64.toNat_sub_of_le _ _ within]

-- What fits into the budget is shorter than the reader's bound.
theorem fits_below_sentinel {budget : InputBudget} {count : Nat}
    (fits : budget.used.toNat + count ≤ budget.limit.toNat) (small : count ≤ isizeMax) :
    count < budget.remainingWithSentinel.toNat := by
  have within : budget.used ≤ budget.limit := UInt64.le_iff_toNat_le.mpr (by omega)
  have left := saturatingSub_toNat within
  rw [InputBudget.remainingWithSentinel]
  by_cases last : (saturatingSub budget.limit budget.used).toNat + 1 < 2 ^ 64
  · rw [saturatingSucc_toNat _ last]
    omega
  · rw [saturatingSucc, if_neg last]
    simp only [isizeMax] at small
    omega

theorem read_taken_read {count : UInt64} {text : String}
    (taken : readTaken input count = .ok text) :
    ByteLines.utf8 text.toList = input.bytes.take count.toNat ∧
      text.utf8ByteSize ≤ isizeMax ∧
      (input.fails = true → count.toNat ≤ text.utf8ByteSize) := by
  by_cases stopped :
      ((input.fails && decide ((input.bytes.take count.toNat).length < count.toNat)) ||
        decide (isizeMax < (input.bytes.take count.toNat).length)) = true
  · simp only [readTaken, stopped] at taken
    cases taken
  · simp only [readTaken, stopped] at taken
    cases found : ByteLines.decode (input.bytes.take count.toNat) with
    | none => simp [found] at taken
    | some decoded =>
        simp only [found] at taken
        cases taken
        have whole := ByteLines.utf8_decoded found
        rw [← ByteLines.utf8_length, whole]
        simp only [Bool.or_eq_true, Bool.and_eq_true, decide_eq_true_eq, not_or, not_and,
          not_lt] at stopped
        exact ⟨rfl, stopped.2, stopped.1⟩

-- A text that fits into the budget is all of the input, and the input has come to its end.
theorem stdin_whole {budget charged : InputBudget} {text source : String} {bytes : UInt64}
    (taken : readTaken input budget.remainingWithSentinel = .ok text)
    (counted : bytes.toNat = text.utf8ByteSize) (added : budget.add source bytes = .ok charged) :
    ByteLines.utf8 text.toList = input.bytes ∧ input.fails = false := by
  have ⟨kept, used, within⟩ := add_charged added
  have ⟨read, small, ended⟩ := read_taken_read taken
  have fits : budget.used.toNat + text.utf8ByteSize ≤ budget.limit.toNat := by
    rw [← kept, ← counted, ← used]
    exact UInt64.le_iff_toNat_le.mp within
  have short := fits_below_sentinel fits small
  constructor
  · rw [read, List.take_of_length_le]
    rw [← ByteLines.utf8_length, read, List.length_take] at short
    omega
  · cases fails : input.fails with
    | false => rfl
    | true => exact absurd (ended fails) (by omega)

theorem addStdin_builds (documented : makers.Documented)
    (builds : Builds files fromStr input limit done building)
    (ran : addStdin makers input building true = .ok after) :
    Builds files fromStr input limit (done ++ [.stdin]) after ∧ input.fails = false := by
  obtain ⟨text, taken, pushed⟩ := except_bind_returned ran
  have whole : ∀ {made}, textPartSpec makers "--stdin" text building.budget = .ok made →
      ByteLines.utf8 text.toList = input.bytes ∧ input.fails = false := by
    intro made built
    obtain ⟨bytes, counted, added, _⟩ := text_part_spec_made built
    exact stdin_whole taken counted added
  constructor
  · refine builds_push builds (fun built => text_makes documented rfl rfl ?_ built) pushed
    intro localBytes counted
    have ⟨same, _⟩ := whole built
    exact ⟨text, same, rfl, by rw [counted, ← same, ByteLines.utf8_length]⟩
  · obtain ⟨made, built, _⟩ := except_bind_returned pushed
    exact (whole built).2

theorem addPart_builds (documented : makers.Documented) {part : String}
    (builds : Builds files fromStr input limit done building)
    (ran : addPart makers building part = .ok after) :
    Builds files fromStr input limit (done ++ [.textPart part]) after := by
  obtain ⟨text, stripped, pushed⟩ := except_bind_returned ran
  exact builds_push builds (text_makes documented rfl rfl fun _ counted =>
    ⟨text, text_value_stripped stripped, rfl, counted⟩) pushed

theorem readSpecs_builds (documented : makers.Documented) {args : SendArgs Path}
    (ran : readSpecs makers files fromStr args limit input = .ok after) :
    Builds files fromStr input limit (localInputs args) after ∧
      (args.stdin = true → input.fails = false) := by
  obtain ⟨messaged, message, ran⟩ := except_bind_returned ran
  obtain ⟨piped, stdin, ran⟩ := except_bind_returned ran
  obtain ⟨referenced, references, ran⟩ := except_bind_returned ran
  obtain ⟨loaded, loads, ran⟩ := except_bind_returned ran
  obtain ⟨parsed, parses, texts⟩ := except_bind_returned ran
  have withMessage :
      Builds files fromStr input limit (args.message.toList.map .message) messaged := by
    cases given : args.message with
    | none =>
        simp only [given, addMessage] at message
        cases message
        exact builds_new
    | some text =>
        simp only [given, addMessage] at message
        exact builds_push builds_new (message_makes documented) message
  have withStdin : Builds files fromStr input limit
      (args.message.toList.map .message ++ if args.stdin then [.stdin] else []) piped ∧
      (args.stdin = true → input.fails = false) := by
    cases asked : args.stdin with
    | true =>
        rw [asked] at stdin
        have ⟨builds, ended⟩ := addStdin_builds documented withMessage stdin
        exact ⟨builds, fun _ => ended⟩
    | false =>
        rw [asked] at stdin
        cases stdin
        simpa using withMessage
  have withFiles := except_foldlM_taken (Builds files fromStr input limit) .file
    (fun builds ran => builds_push builds (file_makes documented) ran) withStdin.1 references
  have withBytes := except_foldlM_taken (Builds files fromStr input limit) .fileBytes
    (fun builds ran => builds_push builds (file_bytes_makes documented) ran) withFiles loads
  have withJson := except_foldlM_taken (Builds files fromStr input limit) .jsonPart
    (fun builds ran => builds_push builds (json_makes documented) ran) withBytes parses
  have withParts := except_foldlM_taken (Builds files fromStr input limit) .textPart
    (addPart_builds documented) withJson texts
  rw [localInputs]
  exact ⟨withParts, withStdin.2⟩

end Building

/-! The media types are set on a part and its summary together. -/

def Retyped (before now : PartSpec) : Prop :=
  ∃ mediaType, now.part = { before.part with mediaType := mediaType } ∧
    now.summary = { before.summary with mediaType := mediaType }

theorem retyped_self {spec : PartSpec} (typed : spec.part.mediaType = spec.summary.mediaType) :
    Retyped spec spec := ⟨spec.summary.mediaType, by rw [← typed], rfl⟩

theorem retyped_set {before now : PartSpec} (mediaType : String) (retyped : Retyped before now) :
    Retyped before (setPartMediaType mediaType now) := by
  obtain ⟨_, part, summary⟩ := retyped
  exact ⟨some mediaType, by rw [setPartMediaType, part], by rw [setPartMediaType, summary]⟩

section Assignments

variable {specs now : List PartSpec}

theorem retyped_modify (retyped : List.Forall₂ Retyped specs now) (index : Nat)
    (mediaType : String) :
    List.Forall₂ Retyped specs (now.modify index (setPartMediaType mediaType)) := by
  induction retyped generalizing index with
  | nil => simp
  | cons head rest ih =>
      cases index with
      | zero => exact .cons (retyped_set mediaType head) rest
      | succ index => exact .cons head (ih index)

theorem retyped_targets (retyped : List.Forall₂ Retyped specs now)
    (assignments : List (Nat × String)) :
    List.Forall₂ Retyped specs (assignTargets now assignments) := by
  induction assignments generalizing now with
  | nil => exact retyped
  | cons assigned rest ih => exact ih (retyped_modify retyped assigned.1 assigned.2)

theorem retyped_zip (retyped : List.Forall₂ Retyped specs now) {mediaTypes : List String}
    (paired : mediaTypes.length = now.length) :
    List.Forall₂ Retyped specs
      (List.zipWith (fun spec mediaType => setPartMediaType mediaType spec) now mediaTypes) := by
  induction retyped generalizing mediaTypes with
  | nil => simp
  | cons head rest ih =>
      cases mediaTypes with
      | nil => simp at paired
      | cons mediaType others =>
          exact .cons (retyped_set mediaType head) (ih (Nat.succ.inj paired))

theorem assignMediaTypes_retyped {mediaTypes : List String}
    (typed : ∀ spec ∈ specs, spec.part.mediaType = spec.summary.mediaType)
    (assigned : assignMediaTypes specs mediaTypes = .ok now) :
    List.Forall₂ Retyped specs now := by
  have unchanged : List.Forall₂ Retyped specs specs :=
    List.forall₂_same.mpr fun spec member => retyped_self (typed spec member)
  match mediaTypes with
  | [] =>
      cases assigned
      exact unchanged
  | [mediaType] =>
      cases assigned
      exact retyped_targets unchanged _
  | first :: second :: others =>
      simp only [assignMediaTypes] at assigned
      by_cases targeted : (first :: second :: others).length = (targetIndices specs).length
      · rw [if_pos targeted] at assigned
        cases assigned
        exact retyped_targets unchanged _
      · rw [if_neg targeted] at assigned
        by_cases paired : (first :: second :: others).length = specs.length
        · rw [if_pos paired] at assigned
          cases assigned
          exact retyped_zip unchanged paired
        · rw [if_neg paired] at assigned
          cases assigned

theorem applyMimeAssignments_retyped {values : List String}
    (typed : ∀ spec ∈ specs, spec.part.mediaType = spec.summary.mediaType)
    (applied : applyMimeAssignments specs values = .ok now) :
    List.Forall₂ Retyped specs now := by
  obtain ⟨mediaTypes, _, assigned⟩ := except_bind_returned applied
  exact assignMediaTypes_retyped typed assigned

theorem byteTotal_retyped (retyped : List.Forall₂ Retyped specs now) :
    byteTotal now = byteTotal specs := by
  induction retyped with
  | nil => rfl
  | cons head rest ih =>
      have ⟨_, _, summary⟩ := head
      simp only [byteTotal, List.map_cons, List.sum_cons, summary] at ih ⊢
      rw [ih]

theorem typed_retyped (retyped : List.Forall₂ Retyped specs now) :
    now.map (fun spec => spec.part.mediaType) = now.map fun spec => spec.summary.mediaType := by
  induction retyped with
  | nil => rfl
  | cons head rest ih =>
      have ⟨_, part, summary⟩ := head
      simp only [List.map_cons, part, summary, ih]

theorem described_retyped {Path : Type} {files : Nat → FileSystem Path}
    {fromStr : String → Option Json} {input : StdinInput} {done : List (LocalInput Path)}
    (described : List.Forall₂
      (fun given spec => Describes files fromStr input given (spec.part, spec.summary)) done specs)
    (retyped : List.Forall₂ Retyped specs now) :
    List.Forall₂
      (fun given spec => Describes files fromStr input given (spec.part, spec.summary))
      done now := by
  induction described generalizing now with
  | nil =>
      cases retyped
      exact .nil
  | cons head rest ih =>
      cases retyped with
      | cons same others =>
          have ⟨_, part, summary⟩ := same
          refine .cons ?_ (ih others)
          constructor
          · rw [summary]
            exact head.kind
          · rw [summary]
            exact head.source
          · rw [part, summary]
            exact head.holds

end Assignments

theorem readMessageParts_built {Path : Type} {makers : PartMakers}
    {files : Nat → FileSystem Path} {fromStr : String → Option Json} {input : StdinInput}
    {args : SendArgs Path} {limit : UInt64} {built : BuiltMessageParts}
    (documented : makers.Documented)
    (accepted : readMessageParts makers files fromStr args limit input = .ok built) :
    ∃ building specs, Builds files fromStr input limit (localInputs args) building ∧
      (args.stdin = true → input.fails = false) ∧ List.Forall₂ Retyped building.specs specs ∧
      built =
        ⟨specs.map PartSpec.part, specs.map PartSpec.summary, building.budget.used⟩ := by
  obtain ⟨building, ran, rest⟩ := except_bind_returned accepted
  have ⟨builds, ended⟩ := readSpecs_builds documented ran
  by_cases empty : building.specs.isEmpty = true
  · rw [if_pos empty] at rest
    cases rest
  rw [if_neg empty] at rest
  obtain ⟨specs, applied, returned⟩ := except_bind_returned rest
  cases returned
  exact ⟨building, specs, builds, ended, applyMimeAssignments_retyped builds.typed applied, rfl⟩

/-- Every input given is sent, in full and in order, with one summary that counts its bytes. The
standard input is sent to its end, the total is the sum of the counts and within the limit, and a
part and its summary name the same media type. -/
theorem read_message_parts_exact {Path : Type} {makers : PartMakers}
    {files : Nat → FileSystem Path} {fromStr : String → Option Json} {input : StdinInput}
    {args : SendArgs Path} {limit : UInt64} {built : BuiltMessageParts}
    (documented : makers.Documented)
    (accepted : readMessageParts makers files fromStr args limit input = .ok built) :
    Exact files fromStr input args limit built := by
  obtain ⟨building, specs, builds, ended, retyped, rfl⟩ := readMessageParts_built documented accepted
  constructor
  · rw [List.zip_map', List.forall₂_map_right_iff]
    exact described_retyped builds.described retyped
  · simp
  · simpa using typed_retyped retyped
  · rw [builds.total, ← byteTotal_retyped retyped, byteTotal, List.map_map]
    rfl
  · exact builds.within
  · exact ended

def plainMakers : PartMakers where
  text text := ⟨.text text, none, none, none⟩
  url url := ⟨.url url, none, none, none⟩
  raw bytes := ⟨.raw bytes, none, none, none⟩
  data value := ⟨.data value, none, none, none⟩
  withFilename part filename := { part with filename := some filename }
  withMediaType part mediaType := { part with mediaType := some mediaType }

theorem plainMakers_documented : plainMakers.Documented := by
  constructor <;> intros <;> constructor <;> rfl

-- A disk with one file of three bytes.
def noteDisk : FileSystem String where
  isEmpty := String.isEmpty
  display path := path
  canonicalize path := if path = "/tmp/note.txt" then some path else none
  metadata path := if path = "/tmp/note.txt" then some ⟨true, 3⟩ else none
  fileName path := if path = "/tmp/note.txt" then some "note.txt" else none
  fromFilePath path := if path = "/tmp/note.txt" then some "file:///tmp/note.txt" else none
  read path := if path = "/tmp/note.txt" then some [97, 98, 99] else none

def nullOnly (text : String) : Option Json := if text = "null" then some .null else none

def pipedText : StdinInput := ⟨ByteLines.utf8 "piped".toList, false⟩

def noteArgs : SendArgs String :=
  ⟨some "Hi", true, ["/tmp/note.txt"], [], ["null"], ["text/plain"], []⟩

def noteParts : BuiltMessageParts where
  parts := [⟨.text "Hi", none, none, none⟩, ⟨.text "piped", none, none, none⟩,
    ⟨.url "file:///tmp/note.txt", some "note.txt", some "text/plain", none⟩,
    ⟨.data .null, none, some "text/plain", none⟩]
  summaries := [⟨"text", "message", 2, none, none⟩, ⟨"text", "--stdin", 5, none, none⟩,
    ⟨"file_reference", "--file", 3, some "note.txt", some "text/plain"⟩,
    ⟨"data", "--json-part", 4, none, some "text/plain"⟩]
  localInputBytes := 14

theorem note_sent :
    readMessageParts plainMakers (fun _ => noteDisk) nullOnly noteArgs 16 pipedText =
        .ok noteParts ∧
      Exact (fun _ => noteDisk) nullOnly pipedText noteArgs 16 noteParts :=
  ⟨rfl, read_message_parts_exact plainMakers_documented rfl⟩

end Missive.SendInputs
