import Missive.FileDropProtocol

/-! Several `file-drop` processes over the same directories. Each turn is one operation of one
process; between the turns files may be dropped into the inbox. -/
namespace Missive.FileDropWorkers

open KeyedTable Interleaving Programs Program Core StdioLoop FileDrop FileDropProtocol

/-! What is shared. -/

-- The directories, who has read which file, and which file each executed request was read from.
structure Site where
  drive : Drive
  reads : List (Nat × Nat)
  executed : List (Nat × Nat)

section Turns

variable {Request : Type} (outside : Outside Request) (processId : Nat)

def readsAfter (site : Site) : Operation Request → List (Nat × Nat)
  | .read path =>
      match site.drive.folders.find? path with
      | some file => (processId, file.serial) :: site.reads
      | none => site.reads
  | _ => site.reads

-- A process executes what it has read last.
def executedAfter (site : Site) : Operation Request → List (Nat × Nat)
  | .execute _ =>
      match site.reads.find? fun row => row.1 = processId with
      | some row => row :: site.executed
      | none => site.executed
  | _ => site.executed

def siteAnswer (operation : Operation Request) (site : Site) : operation.Answer × Site :=
  let answered := answer outside processId operation site.drive
  (answered.1, ⟨answered.2, readsAfter processId site operation,
    executedAfter processId site operation⟩)

end Turns

/-! What holds of it. -/

/-- Each file stands in one place, and has been read by one process at most, after it left the
inbox. -/
structure Traced (site : Site) : Prop where
  alone : ∀ {first last : Path} {one other : File}, site.drive.folders.find? first = some one →
    site.drive.folders.find? last = some other → one.serial = other.serial → first = last
  created : ∀ {path : Path} {file : File}, site.drive.folders.find? path = some file →
    file.serial < site.drive.created
  earlier : ∀ row ∈ site.reads, row.2 < site.drive.created
  unread : ∀ {path : Path} {file : File}, path.place = .inbox →
    site.drive.folders.find? path = some file → ∀ row ∈ site.reads, row.2 ≠ file.serial
  readers : ∀ first ∈ site.reads, ∀ last ∈ site.reads, first.2 = last.2 → first.1 = last.1
  executed : ∀ row ∈ site.executed, row ∈ site.reads

/-- The names that a process has chosen are free, and the files it holds are there and have been
read by no other. -/
structure Holds (processId : Nat) (site : Site) (hand : Hand) : Prop where
  chosen : ∀ path ∈ hand.chosen, path.place ≠ .inbox ∧ site.drive.folders.find? path = none
  own : ∀ path ∈ hand.own, path.place ≠ .inbox ∧
    ∃ file, site.drive.folders.find? path = some file ∧
      ∀ row ∈ site.reads, row.2 = file.serial → row.1 = processId

def Apart (hand other : Hand) : Prop :=
  (∀ path ∈ hand.chosen, path ∉ other.chosen) ∧ ∀ path ∈ hand.own, path ∉ other.own

theorem apart_symm {hand other : Hand} (apart : Apart hand other) : Apart other hand :=
  ⟨fun path member inside => apart.1 path inside member,
    fun path member inside => apart.2 path inside member⟩

section Operations

variable {site after : Site} {hand mine : Hand} {processId : Nat} {source destination path : Path}
  {file : File}

-- Nothing has moved, and nothing was read.
structure Still (site after : Site) : Prop where
  folders : after.drive.folders = site.drive.folders
  created : after.drive.created = site.drive.created
  reads : after.reads = site.reads
  executed : ∀ row ∈ after.executed, row ∈ site.executed ∨ row ∈ site.reads

theorem traced_still (traced : Traced site) (still : Still site after) : Traced after := by
  obtain ⟨folders, created, reads, executed⟩ := still
  constructor
  · rw [folders]
    exact traced.alone
  · rw [folders, created]
    exact traced.created
  · rw [reads, created]
    exact traced.earlier
  · rw [folders, reads]
    exact traced.unread
  · rw [reads]
    exact traced.readers
  · intro row member
    rw [reads]
    rcases executed row member with known | read
    · exact traced.executed row known
    · exact read

theorem holds_still (holds : Holds processId site hand) (still : Still site after) :
    Holds processId after hand := by
  obtain ⟨folders, _, reads, _⟩ := still
  constructor
  · rw [folders]
    exact holds.chosen
  · rw [folders, reads]
    exact holds.own

/-! A rename. -/

structure Renamed (site : Site) (source destination : Path) (file : File) (after : Site) :
    Prop where
  found : site.drive.folders.find? source = some file
  free : site.drive.folders.find? destination = none
  outer : destination.place ≠ .inbox
  folders : after.drive.folders = (site.drive.folders.remove source).put destination file
  created : after.drive.created = site.drive.created
  reads : after.reads = site.reads
  executed : after.executed = site.executed

theorem renamed_find (renamed : Renamed site source destination file after) (path : Path) :
    after.drive.folders.find? path = if path = destination then some file
      else if path = source then none else site.drive.folders.find? path := by
  rw [renamed.folders, Folders.find?_put, Folders.find?_remove]

-- A file after the rename was there before, under the same name or under the old one.
theorem renamed_origin (renamed : Renamed site source destination file after) {one : File}
    (found : after.drive.folders.find? path = some one) :
    (path = destination ∧ one = file) ∨
      (path ≠ destination ∧ path ≠ source ∧ site.drive.folders.find? path = some one) :=
  Folders.origin_rename (renamed.folders ▸ found)

theorem Traced.distinct (traced : Traced site) :
    site.drive.folders.Distinct site.drive.created := ⟨traced.alone, traced.created⟩

theorem traced_renamed (traced : Traced site)
    (renamed : Renamed site source destination file after) : Traced after := by
  have distinct : after.drive.folders.Distinct after.drive.created := by
    rw [renamed.folders, renamed.created]
    exact Folders.distinct_rename traced.distinct renamed.found destination
  constructor
  · exact distinct.alone
  · exact distinct.created
  · rw [renamed.reads, renamed.created]
    exact traced.earlier
  · intro path one place found
    rw [renamed.reads]
    rcases renamed_origin renamed found with ⟨rfl, _⟩ | ⟨_, _, stayed⟩
    · exact absurd place renamed.outer
    · exact traced.unread place stayed
  · rw [renamed.reads]
    exact traced.readers
  · rw [renamed.reads, renamed.executed]
    exact traced.executed

-- The other processes neither chose the new name nor hold the file.
theorem holds_renamed_other (holds : Holds processId site hand)
    (renamed : Renamed site source destination file after) (unchosen : destination ∉ hand.chosen)
    (foreign : source ∉ hand.own) : Holds processId after hand := by
  constructor
  · intro path member
    obtain ⟨place, free⟩ := holds.chosen path member
    refine ⟨place, ?_⟩
    have apart : path ≠ destination := fun same => unchosen (same ▸ member)
    rw [renamed_find renamed, if_neg apart, free]
    exact ite_self none
  · intro path member
    obtain ⟨place, one, found, readers⟩ := holds.own path member
    refine ⟨place, one, ?_, ?_⟩
    · have apart : path ≠ destination := by
        intro same
        rw [same, renamed.free] at found
        cases found
      have away : path ≠ source := fun same => foreign (same ▸ member)
      rw [renamed_find renamed, if_neg apart, if_neg away]
      exact found
    · rw [renamed.reads]
      exact readers

theorem holds_renamed_own (holds : Holds processId site mine) (traced : Traced site)
    (renamed : Renamed site source destination file after)
    (taken : source ∈ mine.own ∨ source.place = .inbox) :
    Holds processId after (mine.renamed source destination) := by
  have stays {path : Path} (member : path ∈ mine.own) (away : path ≠ source) :
      path.place ≠ .inbox ∧ ∃ file, after.drive.folders.find? path = some file ∧
        ∀ row ∈ after.reads, row.2 = file.serial → row.1 = processId := by
    obtain ⟨place, one, found, readers⟩ := holds.own path member
    refine ⟨place, one, ?_, renamed.reads ▸ readers⟩
    have apart : path ≠ destination := by
      intro same
      rw [same, renamed.free] at found
      cases found
    rw [renamed_find renamed, if_neg apart, if_neg away]
    exact found
  constructor
  · intro path member
    obtain ⟨listed, apart⟩ := List.mem_filter.mp member
    obtain ⟨place, free⟩ := holds.chosen path listed
    refine ⟨place, ?_⟩
    rw [renamed_find renamed, if_neg (of_decide_eq_true apart), free]
    exact ite_self none
  · by_cases held : source ∈ mine.own
    · simp only [Hand.renamed, if_pos held]
      intro path member
      obtain ⟨listed, away⟩ := List.mem_filter.mp member
      exact stays listed (of_decide_eq_true away)
    · simp only [Hand.renamed, if_neg held]
      intro path member
      rcases List.mem_cons.mp member with rfl | listed
      · refine ⟨renamed.outer, file, ?_, ?_⟩
        · rw [renamed_find renamed, if_pos rfl]
        · rw [renamed.reads]
          -- Nobody has read a file in the inbox.
          intro row read same
          exact absurd same (traced.unread (taken.resolve_left held) renamed.found row read)
      · exact stays listed fun same => held (same ▸ listed)

theorem apart_renamed (apart : Apart mine hand)
    (present : ∀ path ∈ hand.own, path ≠ destination) :
    Apart (mine.renamed source destination) hand := by
  constructor
  · intro path member
    exact apart.1 path (List.mem_filter.mp member).1
  · by_cases held : source ∈ mine.own
    · simp only [Hand.renamed, if_pos held]
      intro path member
      exact apart.2 path (List.mem_filter.mp member).1
    · simp only [Hand.renamed, if_neg held]
      intro path member inside
      rcases List.mem_cons.mp member with same | listed
      · exact present path inside same
      · exact apart.2 path listed inside

/-! A new file. -/

structure Created (site : Site) (path : Path) (bytes : ByteArray) (after : Site) : Prop where
  folders : after.drive.folders = site.drive.folders.put path ⟨site.drive.created, bytes⟩
  created : after.drive.created = site.drive.created + 1
  reads : after.reads = site.reads
  executed : after.executed = site.executed

theorem created_find {bytes : ByteArray} (new : Created site path bytes after) (wanted : Path) :
    after.drive.folders.find? wanted = if wanted = path then some ⟨site.drive.created, bytes⟩
      else site.drive.folders.find? wanted := by
  rw [new.folders, Folders.find?_put]

theorem traced_created {bytes : ByteArray} (traced : Traced site)
    (new : Created site path bytes after) : Traced after := by
  have distinct : after.drive.folders.Distinct after.drive.created := by
    rw [new.folders, new.created]
    exact Folders.distinct_put traced.distinct path bytes
  constructor
  · exact distinct.alone
  · exact distinct.created
  · rw [new.reads, new.created]
    intro row read
    exact Nat.lt_succ_of_lt (traced.earlier row read)
  · intro wanted one place found
    rw [new.reads]
    rcases Folders.origin_put (new.folders ▸ found) with ⟨_, rfl⟩ | ⟨_, stayed⟩
    · exact fun row read => (traced.earlier row read).ne
    · exact traced.unread place stayed
  · rw [new.reads]
    exact traced.readers
  · rw [new.reads, new.executed]
    exact traced.executed

theorem holds_created_other {bytes : ByteArray} (holds : Holds processId site hand)
    (new : Created site path bytes after) (unchosen : path ∉ hand.chosen)
    (foreign : path ∉ hand.own) : Holds processId after hand := by
  constructor
  · intro wanted member
    obtain ⟨place, free⟩ := holds.chosen wanted member
    refine ⟨place, ?_⟩
    have apart : wanted ≠ path := fun same => unchosen (same ▸ member)
    rw [created_find new, if_neg apart]
    exact free
  · intro wanted member
    obtain ⟨place, one, found, readers⟩ := holds.own wanted member
    refine ⟨place, one, ?_, new.reads ▸ readers⟩
    have apart : wanted ≠ path := fun same => foreign (same ▸ member)
    rw [created_find new, if_neg apart]
    exact found

theorem holds_created_own {bytes : ByteArray} (holds : Holds processId site mine)
    (traced : Traced site) (new : Created site path bytes after) (chosen : path ∈ mine.chosen) :
    Holds processId after ⟨mine.chosen.filter (· ≠ path), path :: mine.own⟩ := by
  have free := (holds.chosen path chosen).2
  have absent : path ∉ mine.own := by
    intro inside
    obtain ⟨_, one, found, _⟩ := holds.own path inside
    rw [free] at found
    cases found
  have rest : Holds processId after ⟨mine.chosen.filter (· ≠ path), mine.own⟩ := by
    apply holds_created_other _ new
    · intro member
      exact of_decide_eq_true (List.mem_filter.mp member).2 rfl
    · exact absent
    · exact ⟨fun wanted member => holds.chosen wanted (List.mem_filter.mp member).1, holds.own⟩
  constructor
  · exact rest.chosen
  · intro wanted member
    rcases List.mem_cons.mp member with rfl | listed
    · refine ⟨(holds.chosen wanted chosen).1, ⟨site.drive.created, bytes⟩, ?_, ?_⟩
      · rw [created_find new, if_pos rfl]
      · rw [new.reads]
        intro row read same
        have older := traced.earlier row read
        rw [same] at older
        exact absurd older (lt_irrefl _)
    · exact rest.own wanted listed

/-! A read. -/

structure ReadBy (processId : Nat) (site : Site) (path : Path) (file : File) (after : Site) :
    Prop where
  found : site.drive.folders.find? path = some file
  drive : after.drive = site.drive
  reads : after.reads = (processId, file.serial) :: site.reads
  executed : after.executed = site.executed

theorem traced_read (traced : Traced site) (holds : Holds processId site mine)
    (held : path ∈ mine.own) (read : ReadBy processId site path file after) : Traced after := by
  obtain ⟨place, one, known, readers⟩ := holds.own path held
  have same : one = file := Option.some.inj (known.symm.trans read.found)
  subst same
  constructor
  · rw [read.drive]
    exact traced.alone
  · rw [read.drive]
    exact traced.created
  · rw [read.drive, read.reads]
    intro row member
    rcases List.mem_cons.mp member with rfl | earlier
    · exact traced.created read.found
    · exact traced.earlier row earlier
  · intro wanted other inbox found row member
    rw [read.drive] at found
    rw [read.reads] at member
    rcases List.mem_cons.mp member with rfl | earlier
    · intro equal
      have here := traced.alone read.found found equal
      exact place (here ▸ inbox)
    · exact traced.unread inbox found row earlier
  · rw [read.reads]
    intro first member last also equal
    rcases List.mem_cons.mp member with rfl | earlier
    · rcases List.mem_cons.mp also with rfl | before
      · rfl
      · exact (readers last before equal.symm).symm
    · rcases List.mem_cons.mp also with rfl | before
      · exact readers first earlier equal
      · exact traced.readers first earlier last before equal
  · rw [read.reads, read.executed]
    exact fun row member => List.mem_cons_of_mem _ (traced.executed row member)

theorem holds_read_own (holds : Holds processId site mine)
    (read : ReadBy processId site path file after) : Holds processId after mine := by
  constructor
  · rw [read.drive]
    exact holds.chosen
  · intro wanted member
    obtain ⟨place, one, found, readers⟩ := holds.own wanted member
    refine ⟨place, one, read.drive ▸ found, ?_⟩
    rw [read.reads]
    intro row listed same
    rcases List.mem_cons.mp listed with rfl | earlier
    · rfl
    · exact readers row earlier same

theorem holds_read_other {other : Nat} (holds : Holds other site hand) (traced : Traced site)
    (read : ReadBy processId site path file after) (foreign : path ∉ hand.own) :
    Holds other after hand := by
  constructor
  · rw [read.drive]
    exact holds.chosen
  · intro wanted member
    obtain ⟨place, one, found, readers⟩ := holds.own wanted member
    refine ⟨place, one, read.drive ▸ found, ?_⟩
    rw [read.reads]
    intro row listed same
    rcases List.mem_cons.mp listed with rfl | earlier
    · have here := traced.alone read.found found same
      exact absurd (here ▸ member) foreign
    · exact readers row earlier same

end Operations

/-! Turns. -/

abbrev Worker (Request : Type) : Type :=
  Seat (Operation Request) Operation.Answer Failure FileDropRunAccumulator Hand

abbrev Workers (Request : Type) : Type := System Nat Site (Worker Request)

section Systems

variable {Request : Type} (outside : Outside Request)

def Workers.next (system : Workers Request) (processId : Nat) : Workers Request :=
  takeTurn handoff (siteAnswer outside) system processId

/-- A process that finds a name free is the only one at work that has chosen it, and a process that
claims a file still finds it in the inbox. -/
def Fits (system : Workers Request) (processId : Nat) : Prop :=
  ∀ operation, (system.locals processId).program.asked = some operation →
    match operation with
    | .pathExists path => system.shared.drive.folders.find? path = none →
        ∀ other, other ≠ processId → (system.locals other).Active →
          path ∉ (system.locals other).hand.chosen
    | .rename source _ => source.place = .inbox →
        (system.shared.drive.folders.find? source).isSome = true
    | _ => True

abbrev InOrder (system : Workers Request) : Prop :=
  Orderly handoff (fun _ after => after = Hand.none) (fun failure => ¬ Lost failure) Traced Holds
    Apart system

-- What `orderly_turn` asks of the operation of a process.
def Keeps (system : Workers Request) (processId : Nat) (hand : Hand) (after : Site) : Prop :=
  Traced after ∧ Holds processId after hand ∧
    ∀ other, other ≠ processId → (system.locals other).Active →
      Holds other after (system.locals other).hand ∧ Apart hand (system.locals other).hand ∧
        Apart (system.locals other).hand hand

variable {system : Workers Request} {processId : Nat} {after : Site}
  {source destination path : Path} {file : File}

theorem keeps_still (inOrder : InOrder system) (active : (system.locals processId).Active)
    (still : Still system.shared after) :
    Keeps system processId (system.locals processId).hand after := by
  refine ⟨traced_still inOrder.whole still, holds_still (inOrder.sound processId active) still, ?_⟩
  intro other different busy
  have apart := inOrder.apart processId other different.symm active busy
  exact ⟨holds_still (inOrder.sound other busy) still, apart, apart_symm apart⟩

theorem keeps_chosen (inOrder : InOrder system) (active : (system.locals processId).Active)
    (outer : path.place ≠ .inbox) (free : system.shared.drive.folders.find? path = none)
    (unchosen : ∀ other, other ≠ processId → (system.locals other).Active →
      path ∉ (system.locals other).hand.chosen) :
    Keeps system processId { (system.locals processId).hand with
      chosen := path :: (system.locals processId).hand.chosen } system.shared := by
  have mine := inOrder.sound processId active
  refine ⟨inOrder.whole, ⟨?_, mine.own⟩, ?_⟩
  · intro wanted member
    rcases List.mem_cons.mp member with rfl | listed
    · exact ⟨outer, free⟩
    · exact mine.chosen wanted listed
  · intro other different busy
    have apart := inOrder.apart processId other different.symm active busy
    have wider : Apart { (system.locals processId).hand with
        chosen := path :: (system.locals processId).hand.chosen } (system.locals other).hand := by
      refine ⟨?_, apart.2⟩
      intro wanted member
      rcases List.mem_cons.mp member with rfl | listed
      · exact unchosen other different busy
      · exact apart.1 wanted listed
    exact ⟨inOrder.sound other busy, wider, apart_symm wider⟩

theorem own_present {hand : Hand} {site : Site} (holds : Holds processId site hand)
    (free : site.drive.folders.find? path = none) : path ∉ hand.own := by
  intro member
  obtain ⟨_, one, found, _⟩ := holds.own path member
  rw [free] at found
  cases found

theorem keeps_renamed (inOrder : InOrder system) (active : (system.locals processId).Active)
    (chosen : destination ∈ (system.locals processId).hand.chosen)
    (taken : source ∈ (system.locals processId).hand.own ∨ source.place = .inbox)
    (renamed : Renamed system.shared source destination file after) :
    Keeps system processId ((system.locals processId).hand.renamed source destination) after := by
  have mine := inOrder.sound processId active
  refine ⟨traced_renamed inOrder.whole renamed,
    holds_renamed_own mine inOrder.whole renamed taken, ?_⟩
  intro other different busy
  have apart := inOrder.apart processId other different.symm active busy
  have theirs := inOrder.sound other busy
  have foreign : source ∉ (system.locals other).hand.own := by
    rcases taken with held | inbox
    · exact apart.2 source held
    · exact fun member => (theirs.own source member).1 inbox
  have wider : Apart ((system.locals processId).hand.renamed source destination)
      (system.locals other).hand := by
    apply apart_renamed apart
    intro wanted member same
    exact own_present theirs renamed.free (same ▸ member)
  exact ⟨holds_renamed_other theirs renamed (apart.1 destination chosen) foreign, wider,
    apart_symm wider⟩

theorem keeps_created {bytes : ByteArray} (inOrder : InOrder system)
    (active : (system.locals processId).Active)
    (chosen : path ∈ (system.locals processId).hand.chosen)
    (new : Created system.shared path bytes after) :
    Keeps system processId ⟨(system.locals processId).hand.chosen.filter (· ≠ path),
      path :: (system.locals processId).hand.own⟩ after := by
  have mine := inOrder.sound processId active
  have free := (mine.chosen path chosen).2
  refine ⟨traced_created inOrder.whole new, holds_created_own mine inOrder.whole new chosen, ?_⟩
  intro other different busy
  have apart := inOrder.apart processId other different.symm active busy
  have theirs := inOrder.sound other busy
  have foreign := own_present theirs free
  have wider : Apart ⟨(system.locals processId).hand.chosen.filter (· ≠ path),
      path :: (system.locals processId).hand.own⟩ (system.locals other).hand := by
    constructor
    · exact fun wanted member => apart.1 wanted (List.mem_filter.mp member).1
    · intro wanted member
      rcases List.mem_cons.mp member with rfl | listed
      · exact foreign
      · exact apart.2 wanted listed
  exact ⟨holds_created_other theirs new (apart.1 path chosen) foreign, wider, apart_symm wider⟩

theorem keeps_read (inOrder : InOrder system) (active : (system.locals processId).Active)
    (held : path ∈ (system.locals processId).hand.own)
    (read : ReadBy processId system.shared path file after) :
    Keeps system processId (system.locals processId).hand after := by
  have mine := inOrder.sound processId active
  refine ⟨traced_read inOrder.whole mine held read, holds_read_own mine read, ?_⟩
  intro other different busy
  have apart := inOrder.apart processId other different.symm active busy
  exact ⟨holds_read_other (inOrder.sound other busy) inOrder.whole read (apart.2 path held), apart,
    apart_symm apart⟩

theorem next_inOrder (inOrder : InOrder system) (fits : Fits system processId) :
    InOrder (system.next outside processId) := by
  apply orderly_turn inOrder
  intro operation asked
  have permitted := orderly_permitted inOrder asked
  have fitting := fits operation asked
  have active : (system.locals processId).Active := by simp [Seat.Active, asked]
  have mine := inOrder.sound processId active
  cases operation with
  | readDir place =>
      exact ⟨trivial, keeps_still inOrder active ⟨rfl, rfl, rfl, fun _ member => .inl member⟩⟩
  | pathExists path =>
      refine ⟨trivial, ?_⟩
      cases found : system.shared.drive.folders.find? path with
      | some file =>
          simp only [siteAnswer, answer, handoff, Hand.next, found, Option.isSome_some, if_true]
          exact keeps_still inOrder active ⟨rfl, rfl, rfl, fun _ member => .inl member⟩
      | none =>
          simp only [siteAnswer, answer, handoff, Hand.next, found, Option.isSome_none]
          exact keeps_chosen inOrder active permitted.1 found (fitting found)
  | rename source destination =>
      have present : ∃ file, system.shared.drive.folders.find? source = some file := by
        rcases permitted.2 with held | inbox
        · obtain ⟨_, file, found, _⟩ := mine.own source held
          exact ⟨file, found⟩
        · exact Option.isSome_iff_exists.mp (fitting inbox)
      obtain ⟨file, found⟩ := present
      obtain ⟨outer, free⟩ := mine.chosen destination permitted.1
      simp only [siteAnswer, answer, renameFile, found]
      exact ⟨rfl, keeps_renamed inOrder active permitted.1 permitted.2
        ⟨found, free, outer, rfl, rfl, rfl, rfl⟩⟩
  | read path =>
      obtain ⟨_, file, found, _⟩ := mine.own path permitted
      simp only [siteAnswer, answer, readFile, readsAfter, found]
      exact ⟨⟨file.bytes, rfl⟩, keeps_read inOrder active permitted ⟨found, rfl, rfl, rfl⟩⟩
  | write path bytes =>
      exact ⟨trivial, keeps_created inOrder active permitted ⟨rfl, rfl, rfl, rfl⟩⟩
  | removeFile path => exact permitted.elim
  | fetchAdd =>
      exact ⟨trivial, keeps_still inOrder active ⟨rfl, rfl, rfl, fun _ member => .inl member⟩⟩
  | execute request =>
      refine ⟨trivial, keeps_still inOrder active ⟨rfl, rfl, rfl, ?_⟩⟩
      intro row member
      simp only [siteAnswer, executedAfter] at member
      split at member
      · rename_i last found
        rcases List.mem_cons.mp member with rfl | earlier
        · exact .inr (List.mem_of_find?_eq_some found)
        · exact .inl earlier
      · exact .inl member
  | deadlinePassed =>
      exact ⟨trivial, keeps_still inOrder active ⟨rfl, rfl, rfl, fun _ member => .inl member⟩⟩

/-! Runs. -/

def dropInto (site : Site) (name : String) (bytes : ByteArray) : Site :=
  { site with drive := { site.drive with
      folders := site.drive.folders.put ⟨.inbox, name⟩ ⟨site.drive.created, bytes⟩
      created := site.drive.created + 1 } }

theorem dropped_inOrder (inOrder : InOrder system) (name : String) (bytes : ByteArray) :
    InOrder { system with shared := dropInto system.shared name bytes } := by
  have new : Created system.shared ⟨.inbox, name⟩ bytes (dropInto system.shared name bytes) :=
    ⟨rfl, rfl, rfl, rfl⟩
  apply orderly_shared inOrder (traced_created inOrder.whole new)
  intro processId holds
  apply holds_created_other holds new
  · exact fun member => (holds.chosen _ member).1 rfl
  · exact fun member => (holds.own _ member).1 rfl

-- Each process starts with its own arguments, and may poll as often as it is let.
structure Launch where
  args : Nat → FileDropArgs
  polls : Nat → Nat

-- The files are told apart, and none has been read yet.
structure Unread (site : Site) : Prop where
  alone : ∀ {first last : Path} {one other : File}, site.drive.folders.find? first = some one →
    site.drive.folders.find? last = some other → one.serial = other.serial → first = last
  created : ∀ {path : Path} {file : File}, site.drive.folders.find? path = some file →
    file.serial < site.drive.created
  reads : site.reads = []
  executed : site.executed = []

def start (codec : Codec Request) (launch : Launch) (site : Site) : Workers Request where
  shared := site
  locals processId :=
    ⟨Hand.none, runFileDropAdapter codec processId (launch.args processId) (launch.polls processId)⟩

/-- The states that are reached from any directories by turns of the processes, in any order, and
by files that are dropped in between. -/
inductive Reached (codec : Codec Request) (launch : Launch)
    (allowed : Workers Request → Nat → Prop) : Workers Request → Prop
  | start (site : Site) (unread : Unread site) :
      Reached codec launch allowed (start codec launch site)
  | turn (system : Workers Request) (processId : Nat) (before : Reached codec launch allowed system)
      (fits : allowed system processId) :
      Reached codec launch allowed (system.next outside processId)
  | drop (system : Workers Request) (name : String) (bytes : ByteArray)
      (before : Reached codec launch allowed system) :
      Reached codec launch allowed { system with shared := dropInto system.shared name bytes }

theorem start_inOrder (codec : Codec Request) (launch : Launch) {site : Site}
    (unread : Unread site) : InOrder (start codec launch site) := by
  constructor
  · constructor
    · exact unread.alone
    · exact unread.created
    · rw [start, unread.reads]
      exact fun _ member => absurd member List.not_mem_nil
    · rw [start, unread.reads]
      exact fun _ _ _ member => absurd member List.not_mem_nil
    · rw [start, unread.reads]
      exact fun _ member => absurd member List.not_mem_nil
    · rw [start, unread.executed]
      exact fun _ member => absurd member List.not_mem_nil
  · exact fun processId => runFileDropAdapter_obeys codec processId _ _
  · exact fun _ _ => ⟨fun _ member => absurd member List.not_mem_nil,
      fun _ member => absurd member List.not_mem_nil⟩
  · exact fun _ _ _ _ _ => ⟨fun _ member => absurd member List.not_mem_nil,
      fun _ member => absurd member List.not_mem_nil⟩

theorem reached_inOrder {codec : Codec Request} {launch : Launch}
    (reached : Reached outside codec launch Fits system) : InOrder system := by
  induction reached with
  | start site unread => exact start_inOrder codec launch unread
  | turn system processId _ fits ih => exact next_inOrder outside ih fits
  | drop system name bytes _ ih => exact dropped_inOrder ih name bytes

def Overwrites (folders : Folders) : Operation Request → Prop
  | .rename _ destination => (folders.find? destination).isSome = true
  | .write path _ => (folders.find? path).isSome = true
  | .removeFile _ => True
  | _ => False

/-- No file is executed by two processes, no process is about to replace or remove a file, and none
has stopped because a file it went for was gone. -/
structure Undisturbed (system : Workers Request) : Prop where
  executed : ∀ first last serial, (first, serial) ∈ system.shared.executed →
    (last, serial) ∈ system.shared.executed → first = last
  overwrites : ∀ processId operation,
    (system.locals processId).program.asked = some operation →
      ¬ Overwrites system.shared.drive.folders operation
  stopped : ∀ processId failure, (system.locals processId).program = .stop failure → ¬ Lost failure

theorem inOrder_undisturbed (inOrder : InOrder system) : Undisturbed system := by
  constructor
  · intro first last serial one other
    have traced := inOrder.whole
    exact traced.readers _ (traced.executed _ one) _ (traced.executed _ other) rfl
  · intro processId operation asked overwrites
    have permitted := orderly_permitted inOrder asked
    have active : (system.locals processId).Active := by simp [Seat.Active, asked]
    have mine := inOrder.sound processId active
    cases operation with
    | rename source destination =>
        have free := (mine.chosen destination permitted.1).2
        simp [Overwrites, free] at overwrites
    | write path bytes =>
        have free := (mine.chosen path permitted).2
        simp [Overwrites, free] at overwrites
    | removeFile path => exact permitted
    | readDir place => exact overwrites
    | pathExists path => exact overwrites
    | read path => exact overwrites
    | fetchAdd => exact overwrites
    | execute request => exact overwrites
    | deadlinePassed => exact overwrites
  · intro processId failure stopped
    have follows := inOrder.follows processId
    rw [stopped] at follows
    exact follows

/-- Whatever the order of the turns, as long as no process finds a name free that another one has
chosen, and none claims a file that has left the inbox, the processes do not disturb one another. -/
theorem reached_undisturbed {codec : Codec Request} {launch : Launch}
    (reached : Reached outside codec launch Fits system) : Undisturbed system :=
  inOrder_undisturbed (reached_inOrder outside reached)

/-! Schedules: the turns of a run, one after another. -/

def along (turns : List Nat) (system : Workers Request) : Workers Request :=
  turns.foldl (Workers.next outside) system

def AllowedAlong (allowed : Workers Request → Nat → Prop) : List Nat → Workers Request → Prop
  | [], _ => True
  | processId :: rest, system => allowed system processId ∧
      AllowedAlong allowed rest (system.next outside processId)

theorem reached_along {codec : Codec Request} {launch : Launch}
    {allowed : Workers Request → Nat → Prop} {turns : List Nat}
    (reached : Reached outside codec launch allowed system)
    (fits : AllowedAlong outside allowed turns system) :
    Reached outside codec launch allowed (along outside turns system) := by
  induction turns generalizing system with
  | nil => exact reached
  | cons processId rest ih => exact ih (.turn system processId reached fits.1) fits.2

def fitsAmong (processes : List Nat) (system : Workers Request) (processId : Nat) : Bool :=
  match (system.locals processId).program.asked with
  | some (.pathExists path) => (system.shared.drive.folders.find? path).isSome ||
      processes.all fun other => other = processId || path ∉ (system.locals other).hand.chosen
  | some (.rename source _) => source.place ≠ .inbox ||
      (system.shared.drive.folders.find? source).isSome
  | _ => true

def allFit (processes : List Nat) : List Nat → Workers Request → Bool
  | [], _ => true
  | processId :: rest, system => fitsAmong processes system processId &&
      allFit processes rest (system.next outside processId)

-- A process that is not among these has not had a turn yet.
theorem fitsAmong_fits {processes : List Nat}
    (others : ∀ other, other ∉ processes → (system.locals other).hand.chosen = [])
    (fitting : fitsAmong processes system processId = true) : Fits system processId := by
  intro operation asked
  unfold fitsAmong at fitting
  rw [asked] at fitting
  cases operation with
  | pathExists path =>
      intro free other different _
      simp only [free, Option.isSome_none, Bool.false_or, List.all_eq_true] at fitting
      by_cases among : other ∈ processes
      · have known := fitting other among
        simp only [different, decide_false, Bool.false_or, decide_eq_true_eq] at known
        exact known
      · rw [others other among]
        exact List.not_mem_nil
  | rename source destination =>
      intro inbox
      simpa [inbox] using fitting
  | _ => trivial

theorem next_other (system : Workers Request) {processId other : Nat}
    (different : other ≠ processId) : (system.next outside processId).locals other = system.locals other := by
  unfold Workers.next takeTurn
  split
  · exact turn_other system _ _ different
  · rfl

theorem allFit_along (processes : List Nat) {turns : List Nat}
    (within : ∀ turn ∈ turns, turn ∈ processes)
    (others : ∀ other, other ∉ processes → (system.locals other).hand.chosen = [])
    (fitting : allFit outside processes turns system = true) :
    AllowedAlong outside Fits turns system := by
  induction turns generalizing system with
  | nil => trivial
  | cons processId rest ih =>
      obtain ⟨here, later⟩ := Bool.and_eq_true_iff.mp fitting
      refine ⟨fitsAmong_fits others here, ih ?_ ?_ later⟩
      · exact fun turn member => within turn (List.mem_cons_of_mem processId member)
      · intro other outsider
        have different : other ≠ processId :=
          fun same => outsider (same ▸ within processId List.mem_cons_self)
        rw [next_other outside system different]
        exact others other outsider

end Systems

/-! Two processes over one inbox. Each is to handle one file. -/

-- No text is a request here.
def refusing : Codec Unit where
  fromJsonStr _ := .error (MissiveError.validation "failed to parse file-drop request as JSON")
  requestId _ := ""
  fromStr _ := none
  toVecPretty document := document.inputFile.toUTF8

def nothing : Outside Unit := ⟨fun _ _ => .ok [], fun _ => false⟩

def oneEach : Launch := ⟨fun _ => ⟨.once, some 1, false⟩, fun _ => 0⟩

def folderWith (entries : List Entry) : Table Entry := entries.foldl Table.put Table.empty

def named (name : String) (serial : Nat) : Entry := ⟨name, ⟨serial, name.toUTF8⟩⟩

-- The archive of errors has an `a.json` from before.
def siteWith (inbox : List Entry) : Site where
  drive := ⟨fun
    | .inbox => folderWith inbox
    | .error => folderWith [named "a.json" 0]
    | _ => Table.empty, 10, fun _ => 0, 0, 0⟩
  reads := []
  executed := []

def files (site : Site) (place : Place) : List (String × Nat) :=
  (site.drive.folders place).rows.map fun entry => (entry.name, entry.file.serial)

def twoFiles : Site := siteWith [named "a.json" 1, named "b.json" 2]

theorem siteWith_unread (inbox : List Entry)
    (apart : ∀ first ∈ (folderWith inbox).rows, ∀ last ∈ (folderWith inbox).rows,
      first.file.serial = last.file.serial → first.name = last.name)
    (small : ∀ entry ∈ (folderWith inbox).rows, entry.file.serial ≠ 0 ∧ entry.file.serial < 10) :
    Unread (siteWith inbox) := by
  have stands {path : Path} {file : File}
      (found : (siteWith inbox).drive.folders.find? path = some file) :
      (path.place = .inbox ∧ ⟨path.name, file⟩ ∈ (folderWith inbox).rows) ∨
        (path = ⟨.error, "a.json"⟩ ∧ file.serial = 0) := by
    obtain ⟨place, name⟩ := path
    obtain ⟨entry, known, rfl⟩ := Option.map_eq_some_iff.mp found
    obtain ⟨listed, same⟩ := (Table.find?_eq_some _ _ _).mp known
    have keyed : entry.name = name := same
    subst keyed
    cases place with
    | inbox => exact .inl ⟨rfl, listed⟩
    | error =>
        have only : entry = named "a.json" 0 := List.mem_singleton.mp listed
        rw [only]
        exact .inr ⟨rfl, rfl⟩
    | outbox => exact absurd listed List.not_mem_nil
    | processed => exact absurd listed List.not_mem_nil
  constructor
  · intro first last one other left right same
    rcases stands left with ⟨here, listed⟩ | ⟨here, zero⟩
    · rcases stands right with ⟨there, inside⟩ | ⟨_, zero⟩
      · have names := apart _ listed _ inside same
        cases first
        cases last
        simp_all
      · exact absurd (same.trans zero) (small _ listed).1
    · rcases stands right with ⟨_, inside⟩ | ⟨there, _⟩
      · exact absurd (same.symm.trans zero) (small _ inside).1
      · rw [here, there]
  · intro path file found
    rcases stands found with ⟨_, listed⟩ | ⟨_, zero⟩
    · exact (small _ listed).2
    · rw [zero]
      exact (by decide : 0 < 10)
  · rfl
  · rfl

-- Process 1 claims `a.json`, and from then on they take turns.
def inTurns : List Nat := [1, 1, 1, 1] ++ (List.replicate 9 [2, 1]).flatten ++ [2, 2, 2]

def shared : Workers Unit := along nothing inTurns (start refusing oneEach twoFiles)

theorem inTurns_undisturbed :
    files shared.shared .outbox = [("a.error.json", 10), ("b.error.json", 11)] ∧
    files shared.shared .error = [("a-1.json", 1), ("a.json", 0), ("b.json", 2)] ∧
    Undisturbed shared := by
  refine ⟨by decide, by decide,
    reached_undisturbed nothing (reached_along nothing (.start twoFiles ?_) ?_)⟩
  · exact siteWith_unread _ (by decide) (by decide)
  · exact allFit_along nothing [1, 2] (by decide) (fun _ _ => rfl) (by decide)

/-! The two processes disturb one another. -/

theorem allowedAlong_any {Request : Type} (outside : Outside Request) (turns : List Nat)
    (system : Workers Request) : AllowedAlong outside (fun _ _ => True) turns system := by
  induction turns generalizing system with
  | nil => trivial
  | cons processId rest ih => exact ⟨trivial, ih _⟩

-- Process 1 has chosen `a-1.json` for the file of that name, and process 2 for the second `a.json`.
def sameName : Site := siteWith [named "a-1.json" 1, named "a.json" 2]

def collided : Workers Unit :=
  along nothing [1, 1, 1, 1, 2, 2, 2, 2, 1, 1, 1, 2, 2, 2, 2, 1] (start refusing oneEach sameName)

-- Both have listed `a.json` and `b.json`, and process 1 has claimed `a.json`.
def allEach : Launch := ⟨fun _ => ⟨.once, none, false⟩, fun _ => 0⟩

def raced : Workers Unit :=
  along nothing [1, 2, 1, 1, 1, 2, 2, 2] (start refusing allEach twoFiles)

/-- Process 2 replaces what process 1 has archived; and the loser of the race for `a.json` stops
with `b.json` still in the inbox. -/
theorem workers_disturb :
    (Reached nothing refusing oneEach (fun _ _ => True) collided ∧ ¬ Undisturbed collided ∧
      files collided.shared .error = [("a-1.json", 1), ("a.json", 0)] ∧
      files (collided.next nothing 2).shared .error = [("a-1.json", 2), ("a.json", 0)]) ∧
    (Reached nothing refusing allEach (fun _ _ => True) raced ∧ ¬ Undisturbed raced ∧
      files raced.shared .inbox = [("b.json", 2)]) := by
  refine ⟨⟨?_, ?_, by decide, by decide⟩, ?_, ?_, by decide⟩
  · exact reached_along nothing (.start sameName (siteWith_unread _ (by decide) (by decide)))
      (allowedAlong_any nothing _ _)
  · intro undisturbed
    have asked : (collided.locals 2).program.asked = some
        (.rename ⟨.processed, ".a.json.processing-2-0"⟩ ⟨.error, "a-1.json"⟩) := rfl
    have taken : (collided.shared.drive.folders.find? ⟨.error, "a-1.json"⟩).isSome = true := by
      decide
    exact undisturbed.overwrites 2 _ asked taken
  · exact reached_along nothing (.start twoFiles (siteWith_unread _ (by decide) (by decide)))
      (allowedAlong_any nothing _ _)
  · intro undisturbed
    have stopped : (raced.locals 2).program = .stop (.claiming ⟨.inbox, "a.json"⟩
        ⟨.processed, ".a.json.processing-2-0"⟩ .notFound) := rfl
    exact undisturbed.stopped 2 _ stopped trivial

end Missive.FileDropWorkers
