import Missive.FileDropProtocol

/-! One `file-drop` process over directories that the command line gives independently, so that two
of them may be one. Files that the process has archived or published are not to be taken for
requests again. -/
namespace Missive.FileDropFeedback

open KeyedTable Interleaving Programs Program Missive.Core StdioLoop FileDrop

/-! The directories. -/

-- The directories of `FileDropArgs`.
structure DirectoryArgs where
  inbox : String
  outbox : String
  processed : Option String
  errorDir : Option String

def joined (directory name : String) : String :=
  String.ofList (FilePaths.join directory.toList name.toList)

def fileDropPathsFromArgs (args : DirectoryArgs) : FileDropPaths where
  inbox := args.inbox
  outbox := args.outbox
  processed := args.processed.getD (joined args.inbox "processed")
  error := args.errorDir.getD (joined args.inbox "error")

section Layouts

variable {Dir : Type} [DecidableEq Dir] (directory : Place → Dir)

-- Places that are one directory have one home: the first of them.
def home (place : Place) : Place :=
  (([.inbox, .outbox, .processed, .error] : List Place).find? fun first =>
    directory first = directory place).getD place

theorem home_inbox : home directory .inbox = .inbox := by
  simp [home]

theorem home_apart {place : Place} (apart : directory place ≠ directory .inbox) :
    home directory place ≠ .inbox := by
  intro same
  unfold home at same
  rw [List.find?_cons_of_neg (by simpa using apart.symm)] at same
  cases place with
  | inbox => exact apart rfl
  | outbox => simp at same
  | processed =>
      by_cases out : directory .outbox = directory .processed
      · simp [out] at same
      · simp [out] at same
  | error =>
      by_cases out : directory .outbox = directory .error
      · simp [out] at same
      · by_cases processed : directory .processed = directory .error
        · simp [out, processed] at same
        · simp [out, processed] at same

end Layouts

/-! What is shared. -/

-- A file was written, moved out of the way or into the outbox, or a request read from it was run.
inductive Deed where
  | written
  | moved
  | executed
  deriving DecidableEq

-- The directories, what was done with which file, and which file was read last.
structure Site where
  drive : Drive
  log : List (Deed × Nat)
  lastRead : Option Nat

-- Where the files of each place stand, and which names there are directories.
@[ext] structure Layout where
  home : Place → Place
  isDirectory : Path → Bool
  inbox : home .inbox = .inbox

def Layout.path (layout : Layout) (path : Path) : Path := ⟨layout.home path.place, path.name⟩

section Turns

variable {Request : Type} (layout : Layout) (outside : Outside Request) (processId : Nat)

def placedAnswer : (operation : Operation Request) → Drive → operation.Answer × Drive
  | .readDir place, drive => answer outside processId (.readDir (layout.home place)) drive
  | .pathExists path, drive =>
      let found := answer outside processId (.pathExists (layout.path path)) drive
      (layout.isDirectory (layout.path path) || found.1, found.2)
  | .rename source destination, drive =>
      answer outside processId (.rename (layout.path source) (layout.path destination)) drive
  | .read path, drive => answer outside processId (.read (layout.path path)) drive
  | .write path bytes, drive => answer outside processId (.write (layout.path path) bytes) drive
  | .removeFile path, drive => answer outside processId (.removeFile (layout.path path)) drive
  | .fetchAdd, drive => answer outside processId .fetchAdd drive
  | .execute request, drive => answer outside processId (.execute request) drive
  | .deadlinePassed, drive => answer outside processId .deadlinePassed drive

-- A rename out of the inbox is a claim; any other one archives or publishes.
def deeds (site : Site) : Operation Request → List (Deed × Nat)
  | .rename source _ =>
      if source.place = .inbox then []
      else match site.drive.folders.find? (layout.path source) with
        | some file => [(.moved, file.serial)]
        | none => []
  | .write _ _ => [(.written, site.drive.created)]
  | .execute _ => match site.lastRead with
      | some serial => [(.executed, serial)]
      | none => []
  | _ => []

def lastReadAfter (site : Site) : Operation Request → Option Nat
  | .read path => match site.drive.folders.find? (layout.path path) with
      | some file => some file.serial
      | none => site.lastRead
  | _ => site.lastRead

def siteAnswer (operation : Operation Request) (site : Site) : operation.Answer × Site :=
  let answered := placedAnswer layout outside processId operation site.drive
  (answered.1, ⟨answered.2, deeds layout site operation ++ site.log,
    lastReadAfter layout site operation⟩)

end Turns

/-! What a process does with one request after another. -/

inductive Phase where
  | idle
  | claimed (path : Path)
  | read

section Phases

variable {Request : Type}

def Permits (phase : Phase) : Operation Request → Prop
  | .rename source destination =>
      destination.place ≠ .inbox ∧ (phase = .idle ∨ phase = .read ∧ source.place ≠ .inbox)
  | .read path => phase = .claimed path
  | .write path _ => phase = .idle ∧ path.place ≠ .inbox
  | .execute _ => phase = .read
  | _ => True

def Phase.next (phase : Phase) : (operation : Operation Request) → operation.Answer → Phase
  | .rename source destination, .ok () =>
      if source.place = .inbox then .claimed destination else .idle
  | .read _, .ok _ => .read
  | .execute _, _ => .idle
  | _, _ => phase

def feeding : Protocol (Operation Request) Operation.Answer Phase where
  permits := Permits
  expects _ _ _ := True
  next := Phase.next

end Phases

abbrev Keeps {Request Result : Type} (ends : Result → Phase → Prop)
    (program : Routine Request Result) (phase : Phase) : Prop :=
  Follows feeding ends (fun _ => True) program phase

section Functions

variable {Request : Type} (codec : Codec Request) (processId : Nat)

theorem firstFree_keeps (place : Place) (desired : String) (phase : Phase)
    (attempts index : Nat) :
    Keeps (fun path after => after = phase ∧ path.place = place)
      (firstFree place desired attempts index : Routine Request Path) phase := by
  induction attempts generalizing index with
  | zero => trivial
  | succ attempts ih =>
      apply follows_perform trivial
      intro taken _
      cases taken with
      | true => exact ih (index + 1)
      | false => exact ⟨rfl, rfl⟩

theorem uniquePath_keeps (place : Place) (desired : String) (phase : Phase) :
    Keeps (fun path after => after = phase ∧ path.place = place)
      (uniquePath place desired : Routine Request Path) phase := by
  apply follows_perform trivial
  intro taken _
  cases taken with
  | true => exact firstFree_keeps place desired phase uniqueAttempts 1
  | false => exact ⟨rfl, rfl⟩

theorem nextUniqueSuffix_keeps (phase : Phase) :
    Keeps (fun _ after => after = phase) (nextUniqueSuffix processId : Routine Request String)
      phase :=
  follows_perform trivial fun _ _ => rfl

theorem claimReadyFile_keeps (name : String) :
    Keeps (fun claim after => after = .claimed claim.claimPath ∧ claim.claimPath.place = .processed)
      (claimReadyFile processId name : Routine Request FileDropClaim) .idle := by
  unfold claimReadyFile
  by_cases ready : isReadyFileName name = true
  · rw [if_pos ready]
    apply follows_bind (nextUniqueSuffix_keeps processId .idle)
    rintro suffix _ rfl
    apply follows_bind (uniquePath_keeps .processed s!".{name}.processing-{suffix}" .idle)
    rintro claimPath _ ⟨rfl, place⟩
    have outer : claimPath.place ≠ .inbox := by
      rw [place]
      decide
    apply follows_perform
    · exact ⟨outer, .inl rfl⟩
    intro renamed _
    cases renamed with
    | error cause => trivial
    | ok _ => exact ⟨rfl, place⟩
  · rw [if_neg ready]
    trivial

theorem readToString_keeps (path : Path) :
    Keeps (fun _ after => after = .read) (readToString path : Routine Request String)
      (.claimed path) := by
  apply follows_perform rfl
  intro read _
  cases read with
  | error cause => trivial
  | ok bytes =>
      dsimp only
      cases String.fromUTF8? bytes with
      | none => trivial
      | some content => exact rfl

-- The request has been run, or the content was none.
def Handled (phase : Phase) : Prop := phase = .read ∨ phase = .idle

theorem handleContent_keeps (content : String) :
    Keeps (fun _ after => Handled after) (handleContent codec content) .read := by
  unfold handleContent
  cases codec.fromJsonStr content with
  | error error => exact .inl rfl
  | ok request => exact follows_perform rfl fun _ _ => .inr rfl

theorem completeClaim_keeps {claim : FileDropClaim} {place : Place} {phase : Phase}
    (handled : Handled phase) (claimed : claim.claimPath.place ≠ .inbox) (outer : place ≠ .inbox) :
    Keeps (fun _ after => after = .idle) (completeClaim claim place : Routine Request Path)
      phase := by
  apply follows_bind (uniquePath_keeps place claim.originalName phase)
  rintro archived _ ⟨rfl, there⟩
  have away : archived.place ≠ .inbox := there ▸ outer
  apply follows_perform
  · exact ⟨away, handled.symm.imp_right fun reading => ⟨reading, claimed⟩⟩
  intro renamed _
  cases renamed with
  | error cause => trivial
  | ok _ => exact if_neg claimed

theorem writeOutputAtomic_keeps {destination : Path} (output : FileDropOutputFile)
    (outer : destination.place ≠ .inbox) :
    Keeps (fun _ after => after = .idle) (writeOutputAtomic codec processId destination output)
      .idle := by
  have temporary : Keeps (fun temp after => after = .idle ∧ temp.place = destination.place)
      (tempOutputPath processId destination : Routine Request Path) .idle := by
    apply follows_bind (nextUniqueSuffix_keeps processId .idle)
    rintro suffix _ rfl
    exact uniquePath_keeps _ _ _
  apply follows_bind temporary
  rintro temp _ ⟨rfl, there⟩
  have away : temp.place ≠ .inbox := there ▸ outer
  apply follows_perform
  · exact ⟨rfl, away⟩
  intro _ _
  apply follows_perform
  · exact ⟨outer, .inl rfl⟩
  intro renamed _
  cases renamed with
  | error cause => exact follows_perform trivial fun _ _ => trivial
  | ok _ => exact if_neg away

theorem archiveAndPublish_keeps {claim : FileDropClaim} (ok : Bool) {place : Place} {phase : Phase}
    (handled : Handled phase) (claimed : claim.claimPath.place ≠ .inbox) (outer : place ≠ .inbox)
    (document : String → FileDropOutputFile) :
    Keeps (fun _ after => after = .idle)
      (archiveAndPublish codec processId claim ok place document) phase := by
  apply follows_bind (uniquePath_keeps .outbox
    s!"{fileStem claim.originalName}.{outputSuffix ok}.json" phase)
  rintro output _ ⟨rfl, there⟩
  apply follows_bind (completeClaim_keeps handled claimed outer)
  rintro archived _ rfl
  apply follows_bind (writeOutputAtomic_keeps codec processId _ (by rw [there]; decide))
  rintro _ _ rfl
  exact rfl

theorem processFileDropFile_keeps (name : String) :
    Keeps (fun _ after => after = .idle) (processFileDropFile codec processId name) .idle := by
  apply follows_bind (claimReadyFile_keeps processId name)
  rintro claim _ ⟨rfl, there⟩
  have claimed : claim.claimPath.place ≠ .inbox := by
    rw [there]
    decide
  apply follows_bind (readToString_keeps claim.claimPath)
  rintro content _ rfl
  apply follows_bind (handleContent_keeps codec content)
  intro result after handled
  cases result with
  | error error => exact archiveAndPublish_keeps codec processId false handled claimed (by decide) _
  | ok answered => exact archiveAndPublish_keeps codec processId true handled claimed (by decide) _

theorem processEach_keeps (names : List String) (batch : FileDropRunAccumulator) :
    Keeps (fun _ after => after = .idle) (processEach codec processId names batch) .idle := by
  induction names generalizing batch with
  | nil => exact rfl
  | cons name rest ih =>
      apply follows_bind (processFileDropFile_keeps codec processId name)
      rintro view _ rfl
      exact ih (batch.count view)

theorem processFileDropReadyFiles_keeps (remaining : Option Nat) :
    Keeps (fun _ after => after = .idle) (processFileDropReadyFiles codec processId remaining)
      .idle := by
  have listed : Keeps (fun _ after => after = .idle)
      (readyFiles : Routine Request (List String)) .idle := follows_perform trivial fun _ _ => rfl
  apply follows_bind listed
  rintro ready _ rfl
  exact processEach_keeps codec processId _ _

theorem pollInbox_keeps (args : FileDropArgs) (polls : Nat) (done : FileDropRunAccumulator) :
    Keeps (fun _ after => after = .idle) (pollInbox codec processId args polls done) .idle := by
  induction polls generalizing done with
  | zero => exact rfl
  | succ polls ih =>
      simp only [pollInbox]
      split
      · exact rfl
      · apply follows_bind (processFileDropReadyFiles_keeps codec processId _)
        rintro batch _ rfl
        split
        · exact rfl
        · split
          · exact rfl
          · split
            · apply follows_perform trivial
              intro passed _
              cases passed with
              | true => exact rfl
              | false => exact ih _
            · exact ih _

theorem runFileDropAdapter_keeps (args : FileDropArgs) (polls : Nat) :
    Keeps (fun _ after => after = .idle) (runFileDropAdapter codec processId args polls) .idle := by
  unfold runFileDropAdapter
  split
  · trivial
  · exact pollInbox_keeps codec processId args (polls + 1) (.empty 0)

end Functions

/-! What holds of the directories when no other place is the inbox. -/

def Unused (site : Site) (serial : Nat) : Prop := ∀ row ∈ site.log, row.2 ≠ serial

def executions (site : Site) : List (Deed × Nat) := site.log.filter fun row => row.1 = .executed

/-- Nothing has been done with any file of the inbox, and no file has been executed twice or after
it was written here. -/
structure Clean (site : Site) : Prop where
  distinct : site.drive.folders.Distinct site.drive.created
  earlier : ∀ row ∈ site.log, row.2 < site.drive.created
  unused : ∀ {name : String} {file : File},
    site.drive.folders.find? ⟨.inbox, name⟩ = some file → Unused site file.serial
  once : (executions site).Nodup
  foreign : ∀ serial, (.executed, serial) ∈ site.log → (.written, serial) ∉ site.log

-- Nothing was done with the file, and it will not be listed again.
structure Pending (site : Site) (serial : Nat) : Prop where
  unused : Unused site serial
  created : serial < site.drive.created
  outside : ∀ {name : String} {file : File},
    site.drive.folders.find? ⟨.inbox, name⟩ = some file → file.serial ≠ serial

def Sound (layout : Layout) (site : Site) : Phase → Prop
  | .idle => True
  | .claimed path => path.place ≠ .inbox ∧ ∀ file,
      site.drive.folders.find? (layout.path path) = some file → Unused site file.serial
  | .read => ∃ serial, site.lastRead = some serial ∧ Pending site serial

section Changes

variable {layout : Layout} {site after : Site}

theorem new_unused (clean : Clean site) {serial : Nat} (new : site.drive.created ≤ serial) :
    Unused site serial := fun row member => (lt_of_lt_of_le (clean.earlier row member) new).ne

theorem clean_quiet (clean : Clean site)
    (distinct : after.drive.folders.Distinct after.drive.created) (log : after.log = site.log)
    (created : site.drive.created ≤ after.drive.created)
    (origin : ∀ {name : String} {file : File},
      after.drive.folders.find? ⟨.inbox, name⟩ = some file →
        site.drive.folders.find? ⟨.inbox, name⟩ = some file ∨ site.drive.created ≤ file.serial) :
    Clean after := by
  constructor
  · exact distinct
  · rw [log]
    exact fun row member => lt_of_lt_of_le (clean.earlier row member) created
  · intro name file found
    unfold Unused
    rw [log]
    rcases origin found with stood | new
    · exact clean.unused stood
    · exact new_unused clean new
  · rw [executions, log]
    exact clean.once
  · rw [log]
    exact clean.foreign

theorem clean_logged (clean : Clean site) {row : Deed × Nat} (log : after.log = row :: site.log)
    (distinct : after.drive.folders.Distinct after.drive.created)
    (created : site.drive.created ≤ after.drive.created) (earlier : row.2 < after.drive.created)
    (origin : ∀ {name : String} {file : File},
      after.drive.folders.find? ⟨.inbox, name⟩ = some file →
        site.drive.folders.find? ⟨.inbox, name⟩ = some file ∧ row.2 ≠ file.serial)
    (unused : row.1 = .moved ∨ Unused site row.2) : Clean after := by
  constructor
  · exact distinct
  · rw [log]
    intro other member
    rcases List.mem_cons.mp member with rfl | before
    · exact earlier
    · exact lt_of_lt_of_le (clean.earlier other before) created
  · intro name file found
    obtain ⟨stood, apart⟩ := origin found
    unfold Unused
    rw [log]
    intro other member
    rcases List.mem_cons.mp member with rfl | before
    · exact apart
    · exact clean.unused stood other before
  · rw [executions, log, List.filter_cons]
    by_cases executed : row.1 = .executed
    · have fresh : Unused site row.2 := unused.resolve_left (by simp [executed])
      rw [if_pos (by simpa using executed)]
      exact List.nodup_cons.mpr
        ⟨fun member => fresh row (List.mem_filter.mp member).1 rfl, clean.once⟩
    · rw [if_neg (by simpa using executed)]
      exact clean.once
  · rw [log]
    intro serial ran written
    rcases List.mem_cons.mp ran with rfl | before
    · rcases List.mem_cons.mp written with same | earlier
      · cases same
      · exact unused.resolve_left Deed.noConfusion _ earlier rfl
    · rcases List.mem_cons.mp written with rfl | earlier
      · exact unused.resolve_left Deed.noConfusion _ before rfl
      · exact clean.foreign serial before earlier

-- Files have gone or come, and nothing was done here.
structure Later (site after : Site) : Prop where
  log : after.log = site.log
  created : site.drive.created ≤ after.drive.created
  lastRead : after.lastRead = site.lastRead
  origin : ∀ {path : Path} {file : File}, after.drive.folders.find? path = some file →
    site.drive.folders.find? path = some file ∨ site.drive.created ≤ file.serial

theorem sound_later (clean : Clean site) (later : Later site after) {phase : Phase}
    (sound : Sound layout site phase) : Sound layout after phase := by
  cases phase with
  | idle => trivial
  | claimed path =>
      refine ⟨sound.1, fun file found => ?_⟩
      unfold Unused
      rw [later.log]
      rcases later.origin found with stood | new
      · exact sound.2 file stood
      · exact new_unused clean new
  | read =>
      obtain ⟨serial, last, pending⟩ := sound
      refine ⟨serial, later.lastRead.trans last, ?_, ?_, ?_⟩
      · unfold Unused
        rw [later.log]
        exact pending.unused
      · exact lt_of_lt_of_le pending.created later.created
      · intro name file found
        rcases later.origin found with stood | new
        · exact pending.outside stood
        · exact (lt_of_lt_of_le pending.created new).ne'

-- Others put a new file anywhere, or take a file away.
inductive Elsewhere (site : Site) : Site → Prop where
  | put (path : Path) (bytes : ByteArray) : Elsewhere site { site with drive := { site.drive with
      folders := site.drive.folders.put path ⟨site.drive.created, bytes⟩
      created := site.drive.created + 1 } }
  | remove (path : Path) : Elsewhere site { site with drive := { site.drive with
      folders := site.drive.folders.remove path } }

theorem later_elsewhere (elsewhere : Elsewhere site after) : Later site after := by
  cases elsewhere with
  | remove path => exact ⟨rfl, le_refl _, rfl, fun found => .inl (Folders.origin_remove found).2⟩
  | put path bytes =>
      refine ⟨rfl, Nat.le_succ _, rfl, fun found => ?_⟩
      rcases Folders.origin_put found with ⟨_, rfl⟩ | ⟨_, stood⟩
      · exact .inr (le_refl _)
      · exact .inl stood

theorem clean_elsewhere (clean : Clean site) (elsewhere : Elsewhere site after) :
    Clean after := by
  have later := later_elsewhere elsewhere
  have distinct : after.drive.folders.Distinct after.drive.created := by
    cases elsewhere with
    | remove path => exact Folders.distinct_remove clean.distinct path
    | put path bytes => exact Folders.distinct_put clean.distinct path bytes
  exact clean_quiet clean distinct later.log later.created later.origin

end Changes

/-! Turns of the process, and what others do between them. -/

abbrev Watch (Request : Type) : Type :=
  System Unit Site (Seat (Operation Request) Operation.Answer Failure FileDropRunAccumulator Phase)

section Watches

variable {Request : Type} (layout : Layout) (outside : Outside Request) (processId : Nat)

def Watch.next (watch : Watch Request) : Watch Request :=
  takeTurn feeding (fun _ => siteAnswer layout outside processId) watch ()

abbrev InOrder (watch : Watch Request) : Prop :=
  Orderly feeding (fun _ after => after = .idle) (fun _ => True) Clean (fun _ => Sound layout)
    (fun _ _ => True) watch

-- What `orderly_turn` asks of an operation.
def Stays (phase : Phase) (site : Site) : Prop := Clean site ∧ Sound layout site phase

variable {layout} {site : Site} {phase : Phase}

theorem stays_still (clean : Clean site) (sound : Sound layout site phase) {drive : Drive}
    (folders : drive.folders = site.drive.folders) (created : drive.created = site.drive.created) :
    Stays layout phase ⟨drive, site.log, site.lastRead⟩ := by
  have later : Later site ⟨drive, site.log, site.lastRead⟩ :=
    ⟨rfl, created.ge, rfl, fun found => .inl (folders ▸ found)⟩
  have distinct : drive.folders.Distinct drive.created := by
    rw [folders, created]
    exact clean.distinct
  exact ⟨clean_quiet clean distinct rfl later.created later.origin, sound_later clean later sound⟩

def renamedDrive (drive : Drive) (source destination : Path) (file : File) : Drive :=
  { drive with folders := (drive.folders.remove source).put destination file }

theorem renamed_missing {source : Path} (destination : Path)
    (missing : site.drive.folders.find? (layout.path source) = none) :
    siteAnswer layout outside processId (.rename source destination) site =
      (.error .notFound, site) := by
  simp [siteAnswer, placedAnswer, answer, renameFile, deeds, lastReadAfter, missing]

theorem renamed_found {source : Path} (destination : Path) {file : File}
    (found : site.drive.folders.find? (layout.path source) = some file) :
    siteAnswer layout outside processId (.rename source destination) site =
      (.ok (), ⟨renamedDrive site.drive (layout.path source) (layout.path destination) file,
        (if source.place = .inbox then [] else [(.moved, file.serial)]) ++ site.log,
        site.lastRead⟩) := by
  simp [siteAnswer, placedAnswer, answer, renameFile, deeds, lastReadAfter, found, renamedDrive]

-- A file that was in the inbox is now claimed.
theorem stays_claimed (clean : Clean site) {name : String} {path : Path} {file : File}
    (found : site.drive.folders.find? ⟨.inbox, name⟩ = some file) (outer : path.place ≠ .inbox)
    (away : layout.home path.place ≠ .inbox) :
    Stays layout (.claimed path) ⟨renamedDrive site.drive ⟨.inbox, name⟩ (layout.path path) file,
      site.log, site.lastRead⟩ := by
  have distinct := Folders.distinct_rename clean.distinct found (layout.path path)
  constructor
  · apply clean_quiet clean
    · exact distinct
    · rfl
    · exact le_refl _
    · intro other one listed
      rcases Folders.origin_rename listed with ⟨here, _⟩ | ⟨_, _, stood⟩
      · exact absurd (congrArg Path.place here).symm away
      · exact .inl stood
  · refine ⟨outer, fun one there => ?_⟩
    rcases Folders.origin_rename there with ⟨_, rfl⟩ | ⟨other, _⟩
    · exact clean.unused found
    · exact absurd rfl other

-- A file has been archived or published.
theorem clean_moved (clean : Clean site) {source destination : Path} {file : File}
    (found : site.drive.folders.find? source = some file) (away : destination.place ≠ .inbox) :
    Clean ⟨renamedDrive site.drive source destination file, (.moved, file.serial) :: site.log,
      site.lastRead⟩ := by
  have distinct := Folders.distinct_rename clean.distinct found destination
  apply clean_logged clean rfl
  · exact distinct
  · exact le_refl _
  · exact clean.distinct.created found
  · intro name one listed
    rcases Folders.origin_rename listed with ⟨here, _⟩ | ⟨_, other, stood⟩
    · exact absurd (congrArg Path.place here).symm away
    · exact ⟨stood, fun same => other (clean.distinct.alone stood found same.symm)⟩
  · exact .inl rfl

theorem stays_rename (clean : Clean site) (sound : Sound layout site phase)
    (apart : ∀ place, place ≠ .inbox → layout.home place ≠ .inbox) {source destination : Path}
    (permitted : Permits phase (.rename source destination : Operation Request)) :
    let answered := siteAnswer layout outside processId (.rename source destination) site
    Stays layout (phase.next (.rename source destination : Operation Request) answered.1)
      answered.2 := by
  cases found : site.drive.folders.find? (layout.path source) with
  | none =>
      rw [renamed_missing outside processId destination found]
      exact ⟨clean, sound⟩
  | some file =>
      rw [renamed_found outside processId destination found]
      have away := apart destination.place permitted.1
      by_cases claimed : source.place = .inbox
      · have there : layout.path source = ⟨.inbox, source.name⟩ := by
          simp [Layout.path, claimed, layout.inbox]
        rw [there] at found ⊢
        simp only [Phase.next, claimed, if_true]
        exact stays_claimed clean found permitted.1 away
      · simp only [Phase.next, claimed, if_false]
        exact ⟨clean_moved clean found away, trivial⟩

-- A file that was written here is not listed.
theorem clean_written (clean : Clean site) {path : Path} (bytes : ByteArray)
    (away : path.place ≠ .inbox) :
    Clean ⟨{ site.drive with
        folders := site.drive.folders.put path ⟨site.drive.created, bytes⟩
        created := site.drive.created + 1 },
      (.written, site.drive.created) :: site.log, site.lastRead⟩ := by
  have distinct := Folders.distinct_put clean.distinct path bytes
  apply clean_logged clean rfl
  · exact distinct
  · exact Nat.le_succ _
  · exact Nat.lt_succ_self _
  · intro name one listed
    rcases Folders.origin_put listed with ⟨here, _⟩ | ⟨_, stood⟩
    · exact absurd (congrArg Path.place here).symm away
    · exact ⟨stood, (clean.distinct.created stood).ne'⟩
  · exact .inr (new_unused clean (le_refl _))

-- The claimed file is read.
theorem sound_read (clean : Clean site)
    (apart : ∀ place, place ≠ .inbox → layout.home place ≠ .inbox) {path : Path} {file : File}
    (sound : Sound layout site (.claimed path))
    (found : site.drive.folders.find? (layout.path path) = some file) :
    Sound layout ⟨site.drive, site.log, some file.serial⟩ .read := by
  refine ⟨file.serial, rfl, sound.2 file found, clean.distinct.created found, ?_⟩
  intro name one listed same
  have here := clean.distinct.alone listed found same
  exact apart path.place sound.1 (congrArg Path.place here).symm

-- The request that was read is run.
theorem clean_executed (clean : Clean site) {serial : Nat} (pending : Pending site serial)
    {drive : Drive} (folders : drive.folders = site.drive.folders)
    (created : drive.created = site.drive.created) :
    Clean ⟨drive, (.executed, serial) :: site.log, site.lastRead⟩ := by
  have distinct : drive.folders.Distinct drive.created := by
    rw [folders, created]
    exact clean.distinct
  apply clean_logged clean rfl
  · exact distinct
  · exact created.ge
  · exact created ▸ pending.created
  · intro name one listed
    have stood : site.drive.folders.find? ⟨.inbox, name⟩ = some one := folders ▸ listed
    exact ⟨stood, (pending.outside stood).symm⟩
  · exact .inr pending.unused

variable {watch : Watch Request}

theorem next_inOrder (apart : ∀ place, place ≠ .inbox → layout.home place ≠ .inbox)
    (inOrder : InOrder layout watch) : InOrder layout (watch.next layout outside processId) := by
  apply orderly_turn inOrder
  intro operation asked
  have permitted := orderly_permitted inOrder asked
  have active : (watch.locals ()).Active := by simp [Seat.Active, asked]
  have sound := inOrder.sound () active
  have clean := inOrder.whole
  have alone {after : Site} {phase : Phase} (stays : Stays layout phase after) :
      True ∧ Clean after ∧ Sound layout after phase ∧ ∀ other, other ≠ () →
        (watch.locals other).Active →
          Sound layout after (watch.locals other).hand ∧ True ∧ True :=
    ⟨trivial, stays.1, stays.2, fun _ different => absurd rfl different⟩
  apply alone
  cases operation with
  | readDir place => exact stays_still clean sound rfl rfl
  | pathExists path => exact stays_still clean sound rfl rfl
  | fetchAdd => exact stays_still clean sound rfl rfl
  | deadlinePassed => exact stays_still clean sound rfl rfl
  | rename source destination => exact stays_rename outside processId clean sound apart permitted
  | removeFile path =>
      have gone : Elsewhere watch.shared { watch.shared with drive := { watch.shared.drive with
          folders := watch.shared.drive.folders.remove (layout.path path) } } := .remove _
      exact ⟨clean_elsewhere clean gone, sound_later clean (later_elsewhere gone) sound⟩
  | read path =>
      have reading : (watch.locals ()).hand = .claimed path := permitted
      cases found : watch.shared.drive.folders.find? (layout.path path) with
      | none =>
          simp only [siteAnswer, placedAnswer, answer, readFile, lastReadAfter, found]
          exact ⟨clean, sound⟩
      | some file =>
          simp only [siteAnswer, placedAnswer, answer, readFile, lastReadAfter, found]
          rw [reading] at sound
          exact ⟨clean_quiet clean clean.distinct rfl (le_refl _) .inl,
            sound_read clean apart sound found⟩
  | write path bytes =>
      obtain ⟨idle, outer⟩ := permitted
      rw [idle]
      exact ⟨clean_written clean bytes (apart path.place outer), trivial⟩
  | execute request =>
      have reading : (watch.locals ()).hand = .read := permitted
      rw [reading] at sound
      obtain ⟨serial, last, pending⟩ := sound
      simp only [siteAnswer, placedAnswer, answer, deeds, last]
      refine ⟨?_, trivial⟩
      exact clean_executed clean pending rfl rfl

/-! Runs. -/

-- The files are told apart, and nothing has been done yet.
structure Untouched (site : Site) : Prop where
  distinct : site.drive.folders.Distinct site.drive.created
  log : site.log = []

def start (codec : Codec Request) (args : FileDropArgs) (polls : Nat) (site : Site) :
    Watch Request where
  shared := site
  locals _ := ⟨.idle, runFileDropAdapter codec processId args polls⟩

/-- The states that are reached from any directories by the operations of one process, with any
arguments, and by what others do in between. -/
inductive Reached (layout : Layout) (codec : Codec Request) : Watch Request → Prop
  | start (args : FileDropArgs) (polls : Nat) (site : Site) (untouched : Untouched site) :
      Reached layout codec (start processId codec args polls site)
  | turn (watch : Watch Request) (before : Reached layout codec watch) :
      Reached layout codec (watch.next layout outside processId)
  | elsewhere (watch : Watch Request) (after : Site) (before : Reached layout codec watch)
      (elsewhere : Elsewhere watch.shared after) :
      Reached layout codec { watch with shared := after }

theorem start_inOrder (codec : Codec Request) (args : FileDropArgs) (polls : Nat)
    (untouched : Untouched site) : InOrder layout (start processId codec args polls site) := by
  have nothing {row : Deed × Nat} : row ∉ site.log := untouched.log ▸ List.not_mem_nil
  constructor
  · constructor
    · exact untouched.distinct
    · exact fun row member => absurd member nothing
    · exact fun _ row member => absurd member nothing
    · rw [executions, start, untouched.log]
      exact List.nodup_nil
    · exact fun serial member => absurd member nothing
  · exact fun _ => runFileDropAdapter_keeps codec processId args polls
  · exact fun _ _ => trivial
  · exact fun _ _ _ _ _ => trivial

theorem reached_inOrder {codec : Codec Request}
    (apart : ∀ place, place ≠ .inbox → layout.home place ≠ .inbox)
    (reached : Reached outside processId layout codec watch) : InOrder layout watch := by
  induction reached with
  | start args polls site untouched => exact start_inOrder processId codec args polls untouched
  | turn watch _ ih => exact next_inOrder outside processId apart ih
  | elsewhere watch after _ elsewhere ih =>
      apply orderly_shared ih (clean_elsewhere ih.whole elsewhere)
      exact fun _ sound => sound_later ih.whole (later_elsewhere elsewhere) sound

/-- No file that `readyFiles` gives was archived or published here, no file was executed twice, and
none that was written here was executed. -/
structure NoFeedback (layout : Layout) (site : Site) : Prop where
  listed : ∀ names after, (readyFiles : Routine Request (List String)).run
      (placedAnswer layout outside processId) site.drive = (.ok names, after) →
    ∀ name ∈ names, ∀ file, site.drive.folders.find? (layout.path ⟨.inbox, name⟩) = some file →
      (.moved, file.serial) ∉ site.log
  once : (executions site).Nodup
  foreign : ∀ serial, (.executed, serial) ∈ site.log → (.written, serial) ∉ site.log

theorem clean_noFeedback (clean : Clean site) : NoFeedback outside processId layout site := by
  constructor
  · intro names after _ name _ file found moved
    have there : layout.path ⟨.inbox, name⟩ = ⟨.inbox, name⟩ := by
      simp [Layout.path, layout.inbox]
    exact clean.unused (there ▸ found) _ moved rfl
  · exact clean.once
  · exact clean.foreign

end Watches

/-! Directories that are one. -/

def homeOf (out done failed : Place) : Place → Place
  | .inbox => .inbox
  | .outbox => out
  | .processed => done
  | .error => failed

def plain (out done failed : Place) : Layout := ⟨homeOf out done failed, fun _ => false, rfl⟩

-- Every text is a request here, or none is.
def judging (accepts : Bool) : Codec Unit where
  fromJsonStr _ := if accepts then .ok ()
    else .error (MissiveError.validation "failed to parse file-drop request as JSON")
  requestId _ := "req-1"
  fromStr _ := none
  toVecPretty document := document.inputFile.toUTF8

def quiet : Outside Unit := ⟨fun _ _ => .ok [], fun _ => false⟩

def oneRequest : Site where
  drive := ⟨fun
    | .inbox => Table.empty.put ⟨"a.json", 1, "a.json".toUTF8⟩
    | _ => Table.empty, 10, fun _ => 0, 0, 0⟩
  log := []
  lastRead := none

def turns (layout : Layout) : Nat → Watch Unit → Watch Unit
  | 0, watch => watch
  | count + 1, watch => turns layout count (watch.next layout quiet 7)

def polled (layout : Layout) (accepts : Bool) (count : Nat) : Watch Unit :=
  turns layout count (start 7 (judging accepts) ⟨.watch, none, false⟩ 5 oneRequest)

def fedBack (layout : Layout) (site : Site) : Bool :=
  match ((readyFiles : Routine Unit (List String)).run (placedAnswer layout quiet 7) site.drive).1
  with
  | .error _ => false
  | .ok names => names.any fun name =>
      match site.drive.folders.find? (layout.path ⟨.inbox, name⟩) with
      | some file => (.moved, file.serial) ∈ site.log
      | none => false

set_option maxRecDepth 4000 in
theorem refused_feeds (out done failed : Place) (shared : out = .inbox ∨ failed = .inbox) :
    fedBack (plain out done failed) (polled (plain out done failed) false 13).shared = true := by
  rcases shared with rfl | rfl
  · cases done <;> cases failed <;> decide +kernel
  · cases out <;> cases done <;> decide +kernel

set_option maxRecDepth 4000 in
theorem accepted_feeds (out failed : Place) :
    fedBack (plain out .inbox failed) (polled (plain out .inbox failed) true 13).shared = true := by
  cases out <;> cases failed <;> decide +kernel

theorem oneRequest_untouched : Untouched oneRequest := by
  have only {path : Path} {file : File} (found : oneRequest.drive.folders.find? path = some file) :
      path = ⟨.inbox, "a.json"⟩ ∧ file.serial = 1 := by
    obtain ⟨place, name⟩ := path
    obtain ⟨entry, known, rfl⟩ := Option.map_eq_some_iff.mp found
    obtain ⟨listed, same⟩ := (Table.find?_eq_some _ _ _).mp known
    have keyed : entry.name = name := same
    subst keyed
    cases place with
    | inbox =>
        have alone : entry = ⟨"a.json", 1, "a.json".toUTF8⟩ := List.mem_singleton.mp listed
        rw [alone]
        exact ⟨rfl, rfl⟩
    | outbox => exact absurd listed List.not_mem_nil
    | processed => exact absurd listed List.not_mem_nil
    | error => exact absurd listed List.not_mem_nil
  refine ⟨⟨fun left right _ => (only left).1.trans (only right).1.symm, fun found => ?_⟩, rfl⟩
  rw [(only found).2]
  decide

theorem reached_turns {layout : Layout} {codec : Codec Unit} {watch : Watch Unit} (count : Nat)
    (reached : Reached quiet 7 layout codec watch) :
    Reached quiet 7 layout codec (turns layout count watch) := by
  induction count generalizing watch with
  | zero => exact reached
  | succ count ih => exact ih (.turn watch reached)

theorem fedBack_feedback {layout : Layout} {site : Site} (fed : fedBack layout site = true) :
    ¬ NoFeedback quiet 7 layout site := by
  intro kept
  unfold fedBack at fed
  cases ran : (readyFiles : Routine Unit (List String)).run (placedAnswer layout quiet 7)
      site.drive with
  | mk result after =>
      cases result with
      | error failure => simp [ran] at fed
      | ok names =>
          simp only [ran, List.any_eq_true] at fed
          obtain ⟨name, member, moved⟩ := fed
          cases found : site.drive.folders.find? (layout.path ⟨.inbox, name⟩) with
          | none => simp [found] at moved
          | some file =>
              have logged : (.moved, file.serial) ∈ site.log := by simpa [found] using moved
              exact kept.listed names after ran name member file found logged

theorem home_shared {Dir : Type} [DecidableEq Dir] {directory : Place → Dir} {place : Place}
    (same : directory place = directory .inbox) : home directory place = .inbox := by
  simp [home, same]

theorem layout_plain (layout : Layout) (nothing : layout.isDirectory = fun _ => false) :
    layout = plain (layout.home .outbox) (layout.home .processed) (layout.home .error) := by
  have homes : layout.home =
      homeOf (layout.home .outbox) (layout.home .processed) (layout.home .error) := by
    funext place
    cases place with
    | inbox => exact layout.inbox
    | outbox => rfl
    | processed => rfl
    | error => rfl
  exact Layout.ext homes nothing

-- A place that shares the inbox feeds it.
theorem shared_feeds (layout : Layout) (nothing : layout.isDirectory = fun _ => false)
    {place : Place} (outer : place ≠ .inbox) (shared : layout.home place = .inbox) :
    ∃ accepts watch, Reached quiet 7 layout (judging accepts) watch ∧
      ¬ NoFeedback quiet 7 layout watch.shared := by
  have plainly := layout_plain layout nothing
  have reached (accepts : Bool) (count : Nat) :
      Reached quiet 7 layout (judging accepts) (polled layout accepts count) :=
    reached_turns count (.start _ _ oneRequest oneRequest_untouched)
  cases place with
  | inbox => exact absurd rfl outer
  | outbox =>
      refine ⟨false, _, reached false 13, fedBack_feedback ?_⟩
      rw [plainly]
      exact refused_feeds _ _ _ (.inl shared)
  | processed =>
      refine ⟨true, _, reached true 13, fedBack_feedback ?_⟩
      rw [plainly, shared]
      exact accepted_feeds _ _
  | error =>
      refine ⟨false, _, reached false 13, fedBack_feedback ?_⟩
      rw [plainly]
      exact refused_feeds _ _ _ (.inr shared)

/-! The command. -/

section Command

variable {Dir : Type} [DecidableEq Dir] (resolve : String → Dir) (args : DirectoryArgs)

-- What the directories of the command line are, and which names in them are directories.
def layoutOf (isDirectory : Path → Bool) : Layout where
  home := home fun place => resolve ((fileDropPathsFromArgs args).directory place)
  isDirectory := isDirectory
  inbox := home_inbox _

/-- A run of `file-drop` never takes what it has archived or published for a request, whatever the
requests, what others do with the directories and how long it polls, exactly when the outbox and
the two archives are other directories than the inbox. -/
theorem no_feedback_iff :
    (∀ (Request : Type) (outside : Outside Request) (processId : Nat) (codec : Codec Request)
      (isDirectory : Path → Bool) (watch : Watch Request),
      Reached outside processId (layoutOf resolve args isDirectory) codec watch →
        NoFeedback outside processId (layoutOf resolve args isDirectory) watch.shared) ↔
      ∀ place, place ≠ .inbox →
        resolve ((fileDropPathsFromArgs args).directory place) ≠ resolve args.inbox := by
  constructor
  · intro never place outer same
    obtain ⟨accepts, watch, reached, feeds⟩ :=
      shared_feeds (layoutOf resolve args fun _ => false) rfl outer (home_shared same)
    exact feeds (never Unit quiet 7 (judging accepts) (fun _ => false) watch reached)
  · intro apart Request outside processId codec isDirectory watch reached
    have away : ∀ place, place ≠ .inbox →
        (layoutOf resolve args isDirectory).home place ≠ .inbox :=
      fun place outer => home_apart _ (apart place outer)
    exact clean_noFeedback outside processId (reached_inOrder outside processId away reached).whole

end Command

def resultsInInbox : Layout := layoutOf id ⟨"drop", "drop", none, none⟩ fun _ => false

def archiveInInbox : Layout := layoutOf id ⟨"drop", "out", some "drop", none⟩ fun _ => false

def standing (watch : Watch Unit) (place : Place) : List (String × Nat) :=
  (watch.shared.drive.folders place).rows.map fun entry => (entry.name, entry.file.serial)

set_option maxRecDepth 4000 in
/-- With the outbox in the inbox, the result for `a.json` is taken for a request at the next poll,
and then its own result. With the archive in the inbox, `a.json` is executed again and again. -/
theorem shared_inbox_feeds :
    (Reached quiet 7 resultsInInbox (judging false) (polled resultsInInbox false 13) ∧
      ¬ NoFeedback quiet 7 resultsInInbox (polled resultsInInbox false 13).shared ∧
      standing (polled resultsInInbox false 13) .inbox = [("a.error.json", 10)] ∧
      standing (polled resultsInInbox false 25) .inbox = [("a.error.error.json", 11)] ∧
      standing (polled resultsInInbox false 25) .error = [("a.error.json", 10), ("a.json", 1)]) ∧
    (Reached quiet 7 archiveInInbox (judging true) (polled archiveInInbox true 20) ∧
      ¬ NoFeedback quiet 7 archiveInInbox (polled archiveInInbox true 20).shared ∧
      executions (polled archiveInInbox true 20).shared = [(.executed, 1), (.executed, 1)]) := by
  have reached (layout : Layout) (accepts : Bool) (count : Nat) :
      Reached quiet 7 layout (judging accepts) (polled layout accepts count) :=
    reached_turns count (.start _ _ oneRequest oneRequest_untouched)
  have ran : executions (polled archiveInInbox true 20).shared = [(.executed, 1), (.executed, 1)] :=
    by decide
  refine ⟨⟨reached _ _ _, fedBack_feedback (by decide), by decide, by decide, by decide⟩,
    reached _ _ _, ?_, ran⟩
  intro kept
  have once := kept.once
  rw [ran] at once
  exact absurd once (by decide)

end Missive.FileDropFeedback
