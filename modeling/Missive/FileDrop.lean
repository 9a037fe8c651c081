import Mathlib.Data.List.Sort
import Mathlib.Logic.Function.Basic
import Missive.Broadcast
import Missive.FilePaths
import Missive.KeyedTable
import Missive.Programs
import Missive.StdioLoop

/-! The `file-drop` adapter. Requests are files in an inbox: each is claimed by a rename, read, run,
archived by another rename, and answered by a file in the outbox. What the program does is a
sequence of single operations of the file system; `serde_json` and the command itself are
parameters. The four directories exist; names that are not UTF-8 are never ready, and no such name
is ever chosen, so they are left out. -/
namespace Missive.FileDrop

open KeyedTable Programs Missive.Core JsonValue StdioLoop

/-! The directories. -/

inductive Place where
  | inbox
  | outbox
  | processed
  | error
  deriving DecidableEq

structure Path where
  place : Place
  name : String
  deriving DecidableEq

-- The serial tells files of the same bytes apart; a file keeps it under any name.
structure File where
  serial : Nat
  bytes : ByteArray

instance : DecidableEq File := fun left right =>
  decidable_of_iff (left.serial = right.serial ∧ left.bytes.data = right.bytes.data) (by
    cases left
    cases right
    simp [ByteArray.ext_iff])

structure Entry where
  name : String
  file : File
  deriving DecidableEq

instance : Keyed Entry String := ⟨Entry.name⟩

abbrev Folders : Type := Place → Table Entry

namespace Folders

def find? (folders : Folders) (path : Path) : Option File :=
  ((folders path.place).find? path.name).map Entry.file

def put (folders : Folders) (path : Path) (file : File) : Folders :=
  Function.update folders path.place ((folders path.place).put ⟨path.name, file⟩)

def remove (folders : Folders) (path : Path) : Folders :=
  Function.update folders path.place
    ((folders path.place).filter fun entry => entry.name ≠ path.name)

theorem put_self (folders : Folders) (place : Place) (name : String) (file : File) :
    folders.put ⟨place, name⟩ file place = (folders place).put ⟨name, file⟩ := by
  simp [put]

theorem put_other (folders : Folders) {path : Path} {place : Place} (file : File)
    (apart : place ≠ path.place) : folders.put path file place = folders place := by
  simp [put, apart]

theorem remove_self (folders : Folders) (place : Place) (name : String) :
    folders.remove ⟨place, name⟩ place = (folders place).filter fun entry => entry.name ≠ name := by
  simp [remove]

theorem remove_other (folders : Folders) {path : Path} {place : Place}
    (apart : place ≠ path.place) : folders.remove path place = folders place := by
  simp [remove, apart]

theorem find?_put (folders : Folders) (path wanted : Path) (file : File) :
    (folders.put path file).find? wanted =
      if wanted = path then some file else folders.find? wanted := by
  obtain ⟨home, known⟩ := path
  obtain ⟨place, name⟩ := wanted
  by_cases here : place = home
  · subst here
    simp only [find?, put_self]
    by_cases same : name = known
    · subst same
      have found : ((folders place).put ⟨name, file⟩).find? name = some ⟨name, file⟩ :=
        Table.find?_put_self (folders place) ⟨name, file⟩
      simp [found]
    · rw [Table.find?_put_other _ _ _ same]
      simp [same]
  · have apart : place ≠ Path.place ⟨home, known⟩ := here
    simp [find?, put_other folders file apart, here]

theorem find?_remove (folders : Folders) (path wanted : Path) :
    (folders.remove path).find? wanted = if wanted = path then none else folders.find? wanted := by
  obtain ⟨home, known⟩ := path
  obtain ⟨place, name⟩ := wanted
  by_cases here : place = home
  · subst here
    simp only [find?, remove_self, Table.find?_filter]
    cases found : (folders place).find? name with
    | none => simp
    | some entry =>
        have named : entry.name = name := Table.find?_key _ found
        by_cases same : name = known
        · simp [Option.filter_some, named, same]
        · simp [Option.filter_some, named, same]
  · have apart : place ≠ Path.place ⟨home, known⟩ := here
    simp [find?, remove_other folders apart, here]

-- Folders are told apart by what stands under each path.
theorem ext_find? {first last : Folders} (same : ∀ path, first.find? path = last.find? path) :
    first = last := by
  funext place
  apply Table.ext_find?
  intro name
  have files : ((first place).find? name).map Entry.file =
      ((last place).find? name).map Entry.file := same ⟨place, name⟩
  cases left : (first place).find? name with
  | none =>
      rw [left] at files
      exact (Option.map_eq_none_iff.mp files.symm).symm
  | some entry =>
      rw [left] at files
      obtain ⟨other, right, equal⟩ := Option.map_eq_some_iff.mp files.symm
      have known : entry.name = name := Table.find?_key _ left
      have named : other.name = name := Table.find?_key _ right
      rw [right]
      cases entry
      cases other
      simp_all

/-! What stands where after a change stood somewhere before it. -/

section Origins

variable {folders : Folders} {source destination path wanted : Path} {file one : File}

theorem origin_put (found : (folders.put path file).find? wanted = some one) :
    (wanted = path ∧ one = file) ∨ (wanted ≠ path ∧ folders.find? wanted = some one) := by
  rw [find?_put] at found
  by_cases same : wanted = path
  · rw [if_pos same] at found
    cases found
    exact .inl ⟨same, rfl⟩
  · rw [if_neg same] at found
    exact .inr ⟨same, found⟩

theorem origin_remove (found : (folders.remove path).find? wanted = some one) :
    wanted ≠ path ∧ folders.find? wanted = some one := by
  rw [find?_remove] at found
  by_cases same : wanted = path
  · rw [if_pos same] at found
    cases found
  · rw [if_neg same] at found
    exact ⟨same, found⟩

theorem origin_rename
    (found : ((folders.remove source).put destination file).find? wanted = some one) :
    (wanted = destination ∧ one = file) ∨
      (wanted ≠ destination ∧ wanted ≠ source ∧ folders.find? wanted = some one) :=
  (origin_put found).imp_right fun other => ⟨other.1, origin_remove other.2⟩

end Origins

/-- Each file stands under one path, and was created before now. -/
structure Distinct (folders : Folders) (created : Nat) : Prop where
  alone : ∀ {first last : Path} {one other : File}, folders.find? first = some one →
    folders.find? last = some other → one.serial = other.serial → first = last
  created : ∀ {path : Path} {file : File}, folders.find? path = some file → file.serial < created

section Changes

variable {folders : Folders} {created : Nat} {source path : Path} {file : File}

theorem distinct_remove (distinct : Distinct folders created) (path : Path) :
    Distinct (folders.remove path) created where
  alone left right := distinct.alone (origin_remove left).2 (origin_remove right).2
  created found := distinct.created (origin_remove found).2

theorem distinct_rename (distinct : Distinct folders created)
    (stood : folders.find? source = some file) (destination : Path) :
    Distinct ((folders.remove source).put destination file) created := by
  constructor
  · intro first last one other left right same
    rcases origin_rename left with ⟨here, rfl⟩ | ⟨_, apart, stayed⟩
    · rcases origin_rename right with ⟨there, rfl⟩ | ⟨_, away, stayed⟩
      · rw [here, there]
      · exact absurd (distinct.alone stayed stood same.symm) away
    · rcases origin_rename right with ⟨there, rfl⟩ | ⟨_, away, rests⟩
      · exact absurd (distinct.alone stayed stood same) apart
      · exact distinct.alone stayed rests same
  · intro path one found
    rcases origin_rename found with ⟨_, rfl⟩ | ⟨_, _, stayed⟩
    · exact distinct.created stood
    · exact distinct.created stayed

theorem distinct_put (distinct : Distinct folders created) (path : Path) (bytes : ByteArray) :
    Distinct (folders.put path ⟨created, bytes⟩) (created + 1) := by
  constructor
  · intro first last one other left right same
    rcases origin_put left with ⟨here, rfl⟩ | ⟨_, stayed⟩
    · rcases origin_put right with ⟨there, rfl⟩ | ⟨_, stayed⟩
      · rw [here, there]
      · exact absurd same (distinct.created stayed).ne'
    · rcases origin_put right with ⟨_, rfl⟩ | ⟨_, rests⟩
      · exact absurd same (distinct.created stayed).ne
      · exact distinct.alone stayed rests same
  · intro wanted one found
    rcases origin_put found with ⟨_, rfl⟩ | ⟨_, stayed⟩
    · exact Nat.lt_succ_self created
    · exact Nat.lt_succ_of_lt (distinct.created stayed)

end Changes

end Folders

-- `drawn` holds the `TEMP_COUNTER` of each process; the counts tell the times apart at which
-- something outside is asked.
structure Drive where
  folders : Folders
  created : Nat
  drawn : Nat → Nat
  executions : Nat
  readings : Nat

inductive IoError where
  | notFound
  | invalidData
  deriving DecidableEq

def IoError.display : IoError → String
  | .notFound => "No such file or directory (os error 2)"
  | .invalidData => "stream did not contain valid UTF-8"

inductive Operation (Request : Type) where
  | readDir (place : Place)
  | pathExists (path : Path)
  | rename (source destination : Path)
  | read (path : Path)
  | write (path : Path) (bytes : ByteArray)
  | removeFile (path : Path)
  | fetchAdd
  | execute (request : Request)
  | deadlinePassed

abbrev Operation.Answer {Request : Type} : Operation Request → Type
  | .readDir _ => List String
  | .pathExists _ => Bool
  | .rename _ _ => Except IoError Unit
  | .read _ => Except IoError ByteArray
  | .write _ _ => Unit
  | .removeFile _ => Unit
  | .fetchAdd => Nat
  | .execute _ => Except MissiveError (List StdioOutputFrame)
  | .deadlinePassed => Bool

-- The outside: what a command gives, and whether the deadline has passed, each time they are asked.
structure Outside (Request : Type) where
  execute : Nat → Request → Except MissiveError (List StdioOutputFrame)
  deadlinePassed : Nat → Bool

section Semantics

variable {Request : Type} (outside : Outside Request) (processId : Nat)

def renameFile (source destination : Path) (folders : Folders) : Except IoError Unit × Folders :=
  match folders.find? source with
  | none => (.error .notFound, folders)
  -- an existing target is replaced
  | some file => (.ok (), (folders.remove source).put destination file)

def readFile (path : Path) (folders : Folders) : Except IoError ByteArray :=
  match folders.find? path with
  | none => .error .notFound
  | some file => .ok file.bytes

def answer : (operation : Operation Request) → Drive → operation.Answer × Drive
  | .readDir place, drive => ((drive.folders place).rows.map Entry.name, drive)
  | .pathExists path, drive => ((drive.folders.find? path).isSome, drive)
  | .rename source destination, drive =>
      let renamed := renameFile source destination drive.folders
      (renamed.1, { drive with folders := renamed.2 })
  | .read path, drive => (readFile path drive.folders, drive)
  -- a file that is written over has new bytes, and counts as a new one
  | .write path bytes, drive => ((), { drive with
      folders := drive.folders.put path ⟨drive.created, bytes⟩
      created := drive.created + 1 })
  | .removeFile path, drive => ((), { drive with folders := drive.folders.remove path })
  | .fetchAdd, drive => (drive.drawn processId,
      { drive with drawn := Function.update drive.drawn processId (drive.drawn processId + 1) })
  | .execute request, drive => (outside.execute drive.executions request,
      { drive with executions := drive.executions + 1 })
  | .deadlinePassed, drive => (outside.deadlinePassed drive.readings,
      { drive with readings := drive.readings + 1 })

end Semantics

/-! Names. -/

-- `rsplitn(2, '.')`: what stands before the last dot and after it.
def splitLastDot (name : String) : Option (String × String) :=
  match name.toList.reverse.dropWhile (· ≠ '.') with
  | [] => none
  | _ :: before => some (String.ofList before.reverse,
      String.ofList (name.toList.reverse.takeWhile (· ≠ '.')).reverse)

-- `Path::file_stem` and `Path::extension` of a single name
def fileStem (name : String) : String :=
  match splitLastDot name with
  | none => name
  | some (before, _) => if name = ".." ∨ before = "" then name else before

def extension (name : String) : Option String :=
  match splitLastDot name with
  | none => none
  | some (before, after) => if name = ".." ∨ before = "" then none else some after

def isReadyFileName (name : String) : Bool :=
  if name.toList.head? = some '.' ∨ name.toList.getLast? = some '~' then false
  else if (RustText.find name.toList ".processing".toList).isSome then false
  else extension name = some "json"

def numbered (desired : String) (index : Nat) : String :=
  match extension desired with
  | some ending => s!"{fileStem desired}-{index}.{ending}"
  | none => s!"{fileStem desired}-{index}"

def uniqueAttempts : Nat := 10000

/-! The errors a run can end with. -/

inductive Failure where
  | noFiles
  | notReady (name : String)
  | claiming (source claim : Path) (cause : IoError)
  | reading (claim : Path) (cause : IoError)
  | archiving (claim destination : Path) (cause : IoError)
  | publishing (temp destination : Path) (cause : IoError)
  | collisions (place : Place) (desired : String)
  deriving DecidableEq

-- The run has found no free name.
def Failure.Crowded (failure : Failure) : Prop :=
  ∃ place desired, failure = .collisions place desired

structure FileDropPaths where
  inbox : String
  outbox : String
  processed : String
  error : String

namespace FileDropPaths

def directory (paths : FileDropPaths) : Place → String
  | .inbox => paths.inbox
  | .outbox => paths.outbox
  | .processed => paths.processed
  | .error => paths.error

def display (paths : FileDropPaths) (path : Path) : String :=
  String.ofList (FilePaths.join (paths.directory path.place).toList path.name.toList)

end FileDropPaths

def ioError (action source : String) : MissiveError :=
  ⟨.io, s!"I/O error while {action}: {source}", none⟩

def Failure.report (paths : FileDropPaths) : Failure → MissiveError
  | .noFiles => MissiveError.validation
      "missive adapter file-drop --max-files must be greater than zero"
  | .notReady name => (MissiveError.validation
      s!"file-drop input file {debug name} is not a ready *.json file").withHelp
        "Write to a temporary name first, then atomically rename to *.json."
  | .claiming source claim cause => ioError
      s!"claiming file-drop input {paths.display source} as {paths.display claim}" cause.display
  | .reading claim cause => ioError
      s!"reading claimed file-drop input {paths.display claim}" cause.display
  | .archiving claim destination cause => ioError
      s!"archiving file-drop input {paths.display claim} to {paths.display destination}"
      cause.display
  | .publishing temp destination cause => ioError
      s!"publishing file-drop output {paths.display temp} as {paths.display destination}"
      cause.display
  | .collisions place desired => ioError
      s!"choosing unique file-drop path for {desired} in {paths.directory place}"
      "too many collisions"

/-! What is written to the outbox and what the run tells of each file. -/

structure FileDropOutputFile where
  schemaVersion : String
  id : Option String
  ok : Bool
  kind : String
  inputFile : String
  archivedFile : Option String
  outputs : List StdioOutputFrame
  error : Option MissiveError

namespace FileDropOutputFile

def success (id inputFile archivedFile : String) (outputs : List StdioOutputFrame) :
    FileDropOutputFile :=
  ⟨"missive.file_drop.v1", some id, true, "file_drop_result", inputFile, some archivedFile, outputs,
    none⟩

def failed (id : Option String) (inputFile archivedFile : String) (error : MissiveError) :
    FileDropOutputFile :=
  ⟨"missive.file_drop.v1", id, false, "file_drop_error", inputFile, some archivedFile, [],
    some error⟩

end FileDropOutputFile

structure FileDropProcessedFileView where
  inputFile : String
  ok : Bool
  outputFile : Path
  archivedFile : String
  outputKind : String
  outputCount : Nat
  errorCode : Option String

structure FileDropRunAccumulator where
  scannedReadyFiles : Nat
  processedFiles : Nat
  succeeded : Nat
  failed : Nat
  files : List FileDropProcessedFileView

def FileDropRunAccumulator.empty (scanned : Nat) : FileDropRunAccumulator := ⟨scanned, 0, 0, 0, []⟩

def FileDropRunAccumulator.merge (first other : FileDropRunAccumulator) : FileDropRunAccumulator :=
  ⟨first.scannedReadyFiles + other.scannedReadyFiles, first.processedFiles + other.processedFiles,
    first.succeeded + other.succeeded, first.failed + other.failed, first.files ++ other.files⟩

def FileDropRunAccumulator.count (batch : FileDropRunAccumulator)
    (view : FileDropProcessedFileView) : FileDropRunAccumulator :=
  { batch with
    processedFiles := batch.processedFiles + 1
    succeeded := if view.ok then batch.succeeded + 1 else batch.succeeded
    failed := if view.ok then batch.failed else batch.failed + 1
    files := batch.files ++ [view] }

-- How requests are read and results are written.
structure Codec (Request : Type) where
  fromJsonStr : String → Except MissiveError Request
  requestId : Request → String
  fromStr : String → Option Json
  toVecPretty : FileDropOutputFile → ByteArray

/-! The program. -/

abbrev Routine (Request Result : Type) : Type :=
  Program (Operation Request) Operation.Answer Failure Result

section Operations

variable {Request : Type}

open Program (perform)

abbrev readDir (place : Place) : Routine Request (List String) := perform (Operation.readDir place)

abbrev pathExists (path : Path) : Routine Request Bool := perform (Operation.pathExists path)

abbrev rename (source destination : Path) : Routine Request (Except IoError Unit) :=
  perform (Operation.rename source destination)

abbrev readBytes (path : Path) : Routine Request (Except IoError ByteArray) :=
  perform (Operation.read path)

abbrev write (path : Path) (bytes : ByteArray) : Routine Request Unit :=
  perform (Operation.write path bytes)

abbrev removeFile (path : Path) : Routine Request Unit := perform (Operation.removeFile path)

abbrev fetchAdd : Routine Request Nat := perform Operation.fetchAdd

abbrev execute (request : Request) :
    Routine Request (Except MissiveError (List StdioOutputFrame)) :=
  perform (Operation.execute request)

abbrev deadlinePassed : Routine Request Bool := perform Operation.deadlinePassed

end Operations

section Run

variable {Request : Type} (codec : Codec Request) (processId : Nat)

-- `Vec::sort_by` on the file names
def readyFiles : Routine Request (List String) := do
  let names ← readDir .inbox
  pure ((names.filter isReadyFileName).insertionSort fun left right => left ≤ right)

def firstFree (place : Place) (desired : String) : Nat → Nat → Routine Request Path
  | 0, _ => .stop (.collisions place desired)
  | attempts + 1, index => do
      let taken ← pathExists ⟨place, numbered desired index⟩
      if taken then firstFree place desired attempts (index + 1)
      else pure ⟨place, numbered desired index⟩

def uniquePath (place : Place) (desired : String) : Routine Request Path := do
  let taken ← pathExists ⟨place, desired⟩
  if taken then firstFree place desired uniqueAttempts 1 else pure ⟨place, desired⟩

def nextUniqueSuffix : Routine Request String := do
  let sequence ← fetchAdd
  pure s!"{processId}-{sequence}"

structure FileDropClaim where
  originalName : String
  claimPath : Path

def claimReadyFile (name : String) : Routine Request FileDropClaim := do
  if isReadyFileName name then
    let suffix ← nextUniqueSuffix processId
    let claimPath ← uniquePath .processed s!".{name}.processing-{suffix}"
    match ← rename ⟨.inbox, name⟩ claimPath with
    | .ok () => pure ⟨name, claimPath⟩
    | .error cause => .stop (.claiming ⟨.inbox, name⟩ claimPath cause)
  else .stop (.notReady name)

def readToString (path : Path) : Routine Request String := do
  match ← readBytes path with
  | .error cause => .stop (.reading path cause)
  | .ok bytes =>
      match String.fromUTF8? bytes with
      | none => .stop (.reading path .invalidData)
      | some content => pure content

def completeClaim (claim : FileDropClaim) (place : Place) : Routine Request Path := do
  let destination ← uniquePath place claim.originalName
  match ← rename claim.claimPath destination with
  | .ok () => pure destination
  | .error cause => .stop (.archiving claim.claimPath destination cause)

def outputSuffix (ok : Bool) : String := if ok then "result" else "error"

def outputPathForClaim (claim : FileDropClaim) (ok : Bool) : Routine Request Path :=
  uniquePath .outbox s!"{fileStem claim.originalName}.{outputSuffix ok}.json"

def tempOutputPath (destination : Path) : Routine Request Path := do
  let suffix ← nextUniqueSuffix processId
  uniquePath destination.place s!".{destination.name}.tmp-{suffix}"

def writeOutputAtomic (destination : Path) (output : FileDropOutputFile) :
    Routine Request Unit := do
  let temp ← tempOutputPath processId destination
  write temp (codec.toVecPretty output)
  match ← rename temp destination with
  | .ok () => pure ()
  | .error cause => do
      removeFile temp
      .stop (.publishing temp destination cause)

def bestEffortFileDropId (content : String) : Option String :=
  (codec.fromStr content).bind fun value => (value.get "id").bind Json.asStr

-- `FileDropInputFile::from_json_str(&content).and_then(execute_file_drop_request)`
def handleContent (content : String) :
    Routine Request (Except MissiveError (Request × List StdioOutputFrame)) :=
  match codec.fromJsonStr content with
  | .error error => pure (.error error)
  | .ok request => do
      let outputs ← execute request
      pure (outputs.map fun frames => (request, frames))

-- What both arms of `process_file_drop_file` do: the document names the archived file.
def archiveAndPublish (claim : FileDropClaim) (ok : Bool) (place : Place)
    (document : String → FileDropOutputFile) : Routine Request FileDropProcessedFileView := do
  let output ← outputPathForClaim claim ok
  let archived ← completeClaim claim place
  writeOutputAtomic codec processId output (document archived.name)
  let shown := document archived.name
  pure ⟨claim.originalName, ok, output, archived.name, shown.kind, shown.outputs.length,
    shown.error.map fun error => s!"missive::{Broadcast.categoryName error.category}"⟩

def processFileDropFile (name : String) : Routine Request FileDropProcessedFileView := do
  let claim ← claimReadyFile processId name
  let content ← readToString claim.claimPath
  match ← handleContent codec content with
  | .ok (request, outputs) =>
      archiveAndPublish codec processId claim true .processed fun archived =>
        .success (codec.requestId request) claim.originalName archived outputs
  | .error error =>
      archiveAndPublish codec processId claim false .error fun archived =>
        .failed (bestEffortFileDropId codec content) claim.originalName archived error

def processEach : List String → FileDropRunAccumulator → Routine Request FileDropRunAccumulator
  | [], batch => pure batch
  | name :: rest, batch => do
      let view ← processFileDropFile codec processId name
      processEach rest (batch.count view)

def processFileDropReadyFiles (remaining : Option Nat) :
    Routine Request FileDropRunAccumulator := do
  let ready ← readyFiles
  processEach codec processId (ready.take (remaining.getD ready.length)) (.empty ready.length)

inductive CliFileDropRunMode where
  | once
  | watch
  deriving DecidableEq

structure FileDropArgs where
  mode : CliFileDropRunMode
  maxFiles : Option Nat
  -- whether `--timeout` is given
  timeout : Bool

-- The loop polls as often as it is let: a watch without a timeout has no end of its own.
def pollInbox (args : FileDropArgs) : Nat → FileDropRunAccumulator →
    Routine Request FileDropRunAccumulator
  | 0, done => pure done
  | polls + 1, done => do
      let remaining := args.maxFiles.map fun maxFiles => maxFiles - done.processedFiles
      if remaining = some 0 then pure done
      else
        let batch ← processFileDropReadyFiles codec processId remaining
        let all := done.merge batch
        if args.mode = .once then pure all
        else if args.maxFiles.any fun maxFiles => maxFiles ≤ all.processedFiles then pure all
        else if args.timeout then
          let passed ← deadlinePassed
          if passed then pure all else pollInbox args polls all
        else pollInbox args polls all

def runFileDropAdapter (args : FileDropArgs) (polls : Nat) :
    Routine Request FileDropRunAccumulator :=
  if args.maxFiles = some 0 then .stop .noFiles
  else pollInbox codec processId args (polls + 1) (.empty 0)

end Run

end Missive.FileDrop
