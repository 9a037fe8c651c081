import Missive.FileDrop

/-! One `file-drop` process alone. What it does to the directories is followed through each of its
functions: what it moves, under which names, and what it publishes. -/
namespace Missive.FileDropHandoff

open KeyedTable Programs Program Core FileDrop

section Functions

variable {Request : Type} (codec : Codec Request) (outside : Outside Request) (processId : Nat)

/-! The folders after each function. -/

theorem firstFree_leads (place : Place) (desired : String) (drive : Drive) (attempts index : Nat) :
    Leads (answer outside processId)
      (fun path after => after = drive ∧ path.place = place ∧ drive.folders.find? path = none)
      (fun failure after => after = drive ∧ failure.Crowded)
      (firstFree place desired attempts index) drive := by
  induction attempts generalizing index with
  | zero => exact ⟨rfl, place, desired, rfl⟩
  | succ attempts ih =>
      apply leads_perform
      cases found : drive.folders.find? ⟨place, numbered desired index⟩ with
      | none =>
          simp only [answer, found]
          exact leads_done ⟨rfl, rfl, found⟩
      | some file =>
          simp only [answer, found]
          exact ih (index + 1)

theorem uniquePath_leads (place : Place) (desired : String) (drive : Drive) :
    Leads (answer outside processId)
      (fun path after => after = drive ∧ path.place = place ∧ drive.folders.find? path = none)
      (fun failure after => after = drive ∧ failure.Crowded)
      (uniquePath place desired) drive := by
  apply leads_perform
  cases found : drive.folders.find? ⟨place, desired⟩ with
  | none =>
      simp only [answer, found]
      exact leads_done ⟨rfl, rfl, found⟩
  | some file =>
      simp only [answer, found]
      exact firstFree_leads outside processId place desired drive uniqueAttempts 1

theorem nextUniqueSuffix_leads (drive : Drive) :
    Leads (answer outside processId) (fun _ after => after.folders = drive.folders)
      (fun _ _ => False) (nextUniqueSuffix processId) drive :=
  leads_perform (leads_done rfl)

theorem rename_answer {source destination : Path} {file : File} {drive : Drive}
    (found : drive.folders.find? source = some file) :
    answer outside processId (.rename source destination) drive =
      (.ok (), { drive with folders := (drive.folders.remove source).put destination file }) := by
  simp [answer, renameFile, found]

theorem claimReadyFile_leads {name : String} {file : File} {drive : Drive}
    (found : drive.folders.find? ⟨.inbox, name⟩ = some file) (ready : isReadyFileName name = true) :
    Leads (answer outside processId)
      (fun claim after => claim.originalName = name ∧ claim.claimPath.place = .processed ∧
        drive.folders.find? claim.claimPath = none ∧
        after.folders = (drive.folders.remove ⟨.inbox, name⟩).put claim.claimPath file)
      (fun failure after => after.folders = drive.folders ∧ failure.Crowded)
      (claimReadyFile processId name) drive := by
  unfold claimReadyFile
  rw [if_pos ready]
  apply leads_bind
  · apply leads_mono (nextUniqueSuffix_leads outside processId drive)
    · exact fun _ _ same => same
    · exact fun _ _ absurd_ => absurd_.elim
  intro suffix after same
  apply leads_bind
  · apply leads_mono (uniquePath_leads outside processId _ _ after)
    · exact fun _ _ chosen => chosen
    · rintro failure _ ⟨rfl, crowded⟩
      exact ⟨same, crowded⟩
  rintro claimPath _ ⟨rfl, place, free⟩
  rw [same] at free
  apply leads_perform
  rw [rename_answer outside processId (same.symm ▸ found)]
  exact leads_done ⟨rfl, place, free, by rw [same]⟩

theorem readToString_leads {path : Path} {file : File} {drive : Drive}
    (found : drive.folders.find? path = some file) :
    Leads (answer outside processId)
      (fun content after => after = drive ∧ String.fromUTF8? file.bytes = some content)
      (fun failure after => after = drive ∧ String.fromUTF8? file.bytes = none ∧
        failure = .reading path .invalidData)
      (readToString path) drive := by
  apply leads_perform
  have shown : readFile path drive.folders = .ok file.bytes := by simp [readFile, found]
  simp only [answer, shown]
  cases valid : String.fromUTF8? file.bytes with
  | none => exact leads_stop ⟨rfl, rfl, rfl⟩
  | some content => exact leads_done ⟨rfl, rfl⟩

theorem handleContent_leads (content : String) (drive : Drive) :
    Leads (answer outside processId) (fun _ after => after.folders = drive.folders)
      (fun _ _ => False) (handleContent codec content) drive := by
  unfold handleContent
  cases codec.fromJsonStr content with
  | error error => exact leads_done rfl
  | ok request => exact leads_perform (leads_done rfl)

theorem completeClaim_leads {claim : FileDropClaim} {file : File} {drive : Drive} (place : Place)
    (found : drive.folders.find? claim.claimPath = some file) :
    Leads (answer outside processId)
      (fun archived after => archived.place = place ∧ drive.folders.find? archived = none ∧
        after.folders = (drive.folders.remove claim.claimPath).put archived file)
      (fun failure after => after.folders = drive.folders ∧ failure.Crowded)
      (completeClaim claim place) drive := by
  apply leads_bind
  · apply leads_mono (uniquePath_leads outside processId place claim.originalName drive)
    · exact fun _ _ chosen => chosen
    · rintro failure _ ⟨rfl, crowded⟩
      exact ⟨rfl, crowded⟩
  rintro archived _ ⟨rfl, home, free⟩
  apply leads_perform
  rw [rename_answer outside processId found]
  exact leads_done ⟨home, free, rfl⟩

-- A name that was free is free again when its file moves on.
theorem put_remove (folders : Folders) {path : Path} (file : File)
    (free : folders.find? path = none) : (folders.put path file).remove path = folders := by
  apply Folders.ext_find?
  intro wanted
  rw [Folders.find?_remove, Folders.find?_put]
  by_cases same : wanted = path
  · rw [if_pos same, same, free]
  · rw [if_neg same, if_neg same]

theorem writeOutputAtomic_leads {destination : Path} (output : FileDropOutputFile) (drive : Drive) :
    Leads (answer outside processId)
      (fun _ after => ∃ serial, after.folders =
        drive.folders.put destination ⟨serial, codec.toVecPretty output⟩)
      (fun failure after => after.folders = drive.folders ∧ failure.Crowded)
      (writeOutputAtomic codec processId destination output) drive := by
  apply leads_bind
  · apply leads_bind
    · apply leads_mono (nextUniqueSuffix_leads outside processId drive)
      · exact fun _ _ same => same
      · exact fun _ _ absurd_ => absurd_.elim
    intro suffix after same
    apply leads_mono (uniquePath_leads outside processId destination.place _ after)
    · rintro temp _ ⟨rfl, home, free⟩
      exact (⟨same, same ▸ free⟩ : _ ∧ drive.folders.find? temp = none)
    · rintro failure _ ⟨rfl, crowded⟩
      exact ⟨same, crowded⟩
  rintro temp after ⟨same, free⟩
  apply leads_perform
  apply leads_perform
  have written : (after.folders.put temp ⟨after.created, codec.toVecPretty output⟩).find? temp =
      some ⟨after.created, codec.toVecPretty output⟩ := by
    rw [Folders.find?_put, if_pos rfl]
  rw [rename_answer outside processId (by exact written)]
  refine leads_done ⟨after.created, ?_⟩
  simp only [answer]
  rw [put_remove _ _ (same ▸ free), same]

end Functions

/-! What has become of a file that was taken. -/

structure Handled where
  entry : Entry
  ok : Bool
  archived : String
  output : Entry

def archiveOf (ok : Bool) : Place := if ok then .processed else .error

theorem archiveOf_inbox (ok : Bool) : archiveOf ok ≠ .inbox := by
  cases ok with
  | false => decide
  | true => decide

theorem archiveOf_outbox (ok : Bool) : archiveOf ok ≠ .outbox := by
  cases ok with
  | false => decide
  | true => decide

-- The published document names the input and the archived file.
def Published {Request : Type} (codec : Codec Request) (one : Handled) : Prop :=
  ∃ document : FileDropOutputFile, document.inputFile = one.entry.name ∧ document.ok = one.ok ∧
    document.archivedFile = some one.archived ∧
    one.output.file.bytes = codec.toVecPretty document

def Handled.settle (one : Handled) (folders : Folders) : Folders :=
  let taken := folders.remove ⟨.inbox, one.entry.name⟩
  (taken.put ⟨archiveOf one.ok, one.archived⟩ one.entry.file).put ⟨.outbox, one.output.name⟩
    one.output.file

/-- The file has moved to a free name of its archive, and its document stands under a free name of
the outbox. -/
structure Settled {Request : Type} (codec : Codec Request) (one : Handled)
    (before after : Folders) : Prop where
  archive : before.find? ⟨archiveOf one.ok, one.archived⟩ = none
  outbox : before.find? ⟨.outbox, one.output.name⟩ = none
  published : Published codec one
  folders : after = one.settle before

section Files

variable {Request : Type} (codec : Codec Request) (outside : Outside Request) (processId : Nat)

theorem archiveAndPublish_leads {claim : FileDropClaim} {file : File} {drive : Drive} (ok : Bool)
    (document : String → FileDropOutputFile)
    (found : drive.folders.find? claim.claimPath = some file) :
    Leads (answer outside processId)
      (fun _ after => ∃ archived output serial,
        drive.folders.find? ⟨archiveOf ok, archived⟩ = none ∧
        drive.folders.find? ⟨.outbox, output⟩ = none ∧
        after.folders = ((drive.folders.remove claim.claimPath).put
          ⟨archiveOf ok, archived⟩ file).put
            ⟨.outbox, output⟩ ⟨serial, codec.toVecPretty (document archived)⟩)
      (fun failure _ => failure.Crowded)
      (archiveAndPublish codec processId claim ok (archiveOf ok) document) drive := by
  apply leads_bind
  · apply leads_mono (uniquePath_leads outside processId .outbox _ drive)
    · exact fun _ _ chosen => chosen
    · exact fun _ _ stopped => stopped.2
  rintro ⟨_, output⟩ _ ⟨rfl, rfl, vacant⟩
  apply leads_bind
  · apply leads_mono (completeClaim_leads outside processId (archiveOf ok) found)
    · exact fun _ _ archived => archived
    · exact fun _ _ stopped => stopped.2
  rintro ⟨_, archived⟩ after ⟨rfl, free, moved⟩
  apply leads_bind
  · apply leads_mono (writeOutputAtomic_leads codec outside processId (document archived) after)
    · exact fun _ _ written => written
    · exact fun _ _ stopped => stopped.2
  rintro _ last ⟨serial, written⟩
  exact leads_done ⟨archived, output, serial, free, vacant, by rw [written, moved]⟩

-- The claim leaves the inbox, and its hidden name is taken while the file is worked on.
theorem settled_claimed {one : Handled} {claim : Path} {before claimed after : Folders}
    (free : before.find? claim = none)
    (moved : claimed = (before.remove ⟨.inbox, one.entry.name⟩).put claim one.entry.file)
    (archive : claimed.find? ⟨archiveOf one.ok, one.archived⟩ = none)
    (outbox : claimed.find? ⟨.outbox, one.output.name⟩ = none) (published : Published codec one)
    (ended : after = ((claimed.remove claim).put ⟨archiveOf one.ok, one.archived⟩
      one.entry.file).put ⟨.outbox, one.output.name⟩ one.output.file) :
    Settled codec one before after := by
  have vacant {path : Path} (apart : path.place ≠ .inbox) (unused : claimed.find? path = none) :
      before.find? path = none := by
    rw [moved, Folders.find?_put, Folders.find?_remove] at unused
    have other : path ≠ ⟨.inbox, one.entry.name⟩ := fun same => apart (congrArg Path.place same)
    by_cases same : path = claim
    · rw [same]
      exact free
    · rwa [if_neg same, if_neg other] at unused
  have hidden : (before.remove ⟨.inbox, one.entry.name⟩).find? claim = none := by
    rw [Folders.find?_remove, free]
    exact ite_self none
  constructor
  · exact vacant (archiveOf_inbox one.ok) archive
  · exact vacant (by decide : Place.outbox ≠ .inbox) outbox
  · exact published
  · rw [ended, moved, put_remove _ _ hidden]
    rfl

def Readable (entry : Entry) : Prop := (String.fromUTF8? entry.file.bytes).isSome = true

instance (entry : Entry) : Decidable (Readable entry) :=
  inferInstanceAs (Decidable (_ = true))

theorem processFileDropFile_leads {entry : Entry} {drive : Drive}
    (found : drive.folders.find? ⟨.inbox, entry.name⟩ = some entry.file)
    (ready : isReadyFileName entry.name = true) :
    Leads (answer outside processId)
      (fun _ after => Readable entry ∧ ∃ one : Handled, one.entry = entry ∧
        Settled codec one drive.folders after.folders)
      (fun failure after => failure.Crowded ∨
        (¬ Readable entry ∧ after.folders .outbox = drive.folders .outbox))
      (processFileDropFile codec processId entry.name) drive := by
  apply leads_bind
  · apply leads_mono (claimReadyFile_leads outside processId found ready)
    · exact fun _ _ claimed => claimed
    · exact fun _ _ stopped => .inl stopped.2
  rintro claim claimed ⟨named, place, free, moved⟩
  have held : claimed.folders.find? claim.claimPath = some entry.file := by
    rw [moved, Folders.find?_put, if_pos rfl]
  apply leads_bind
  · apply leads_mono (readToString_leads outside processId held)
    · exact fun _ _ read => read
    · rintro failure _ ⟨rfl, invalid, _⟩
      refine .inr ⟨by simp [Readable, invalid], ?_⟩
      have apart : Place.outbox ≠ claim.claimPath.place := by
        rw [place]
        decide
      have outer : Place.outbox ≠ .inbox := by decide
      rw [moved, Folders.put_other _ _ apart, Folders.remove_other _ outer]
  rintro content _ ⟨rfl, valid⟩
  have readable : Readable entry := by simp [Readable, valid]
  apply leads_bind
  · apply leads_mono (handleContent_leads codec outside processId content _)
    · exact fun _ _ same => same
    · exact fun _ _ absurd_ => absurd_.elim
  intro handled after same
  rw [← same] at held
  -- Both arms archive the claim and publish a document about it.
  have settles (ok : Bool) (document : String → FileDropOutputFile)
      (about : ∀ archived, (document archived).inputFile = claim.originalName ∧
        (document archived).ok = ok ∧ (document archived).archivedFile = some archived) :
      Leads (answer outside processId)
        (fun _ after => Readable entry ∧ ∃ one : Handled, one.entry = entry ∧
          Settled codec one drive.folders after.folders)
        (fun failure after => failure.Crowded ∨
          (¬ Readable entry ∧ after.folders .outbox = drive.folders .outbox))
        (archiveAndPublish codec processId claim ok (archiveOf ok) document) after := by
    apply leads_mono (archiveAndPublish_leads codec outside processId ok document held)
    · rintro view last ⟨archived, output, serial, archive, outbox, ended⟩
      rw [same] at archive outbox ended
      obtain ⟨input, outcome, label⟩ := about archived
      let shown : File := ⟨serial, codec.toVecPretty (document archived)⟩
      let one : Handled := ⟨entry, ok, archived, ⟨output, shown⟩⟩
      have published : Published codec one :=
        ⟨document archived, input.trans named, outcome, label, rfl⟩
      exact ⟨readable, one, rfl,
        settled_claimed codec free moved archive outbox published ended⟩
    · exact fun _ _ crowded => .inl crowded
  cases handled with
  | error error => exact settles false _ fun _ => ⟨rfl, rfl, rfl⟩
  | ok answered => exact settles true _ fun _ => ⟨rfl, rfl, rfl⟩

end Files

/-! What a run has done to the directories. -/

/-- The entries have come to the folder under names that were free, and nothing else has changed. -/
structure Adds (before after : Table Entry) (added : List Entry) : Prop where
  distinct : (added.map Entry.name).Nodup
  fresh : ∀ entry ∈ added, before.find? entry.name = none
  after : after = added.foldl Table.put before

theorem adds_none (table : Table Entry) : Adds table table [] :=
  ⟨List.nodup_nil, fun _ member => absurd member List.not_mem_nil, rfl⟩

theorem adds_cons {before after : Table Entry} {entry : Entry} {added : List Entry}
    (free : before.find? entry.name = none) (rest : Adds (before.put entry) after added) :
    Adds before after (entry :: added) := by
  have apart : ∀ other ∈ added, other.name ≠ entry.name := by
    intro other member same
    have absent := rest.fresh other member
    rw [same] at absent
    have stored : (before.put entry).find? entry.name = some entry :=
      Table.find?_put_self before entry
    rw [stored] at absent
    contradiction
  constructor
  · rw [List.map_cons, List.nodup_cons]
    refine ⟨?_, rest.distinct⟩
    intro member
    obtain ⟨other, inside, same⟩ := List.mem_map.mp member
    exact apart other inside same
  · intro other member
    rcases List.mem_cons.mp member with rfl | inside
    · exact free
    · have absent := rest.fresh other inside
      rwa [Table.find?_put_other _ _ _ (apart other inside)] at absent
  · exact rest.after

theorem adds_length {before after : Table Entry} {added : List Entry}
    (adds : Adds before after added) : after.rows.length = before.rows.length + added.length := by
  obtain ⟨distinct, fresh, rfl⟩ := adds
  induction added generalizing before with
  | nil => rfl
  | cons entry added ih =>
      rw [List.map_cons, List.nodup_cons] at distinct
      have grown : (before.put entry).rows.length = before.rows.length + 1 :=
        (before.put_perm entry (fresh entry List.mem_cons_self)).length_eq
      have later : ∀ other ∈ added, (before.put entry).find? other.name = none := by
        intro other member
        have apart : other.name ≠ entry.name := by
          intro same
          exact distinct.1 (same ▸ List.mem_map_of_mem member)
        rw [Table.find?_put_other _ _ _ apart]
        exact fresh other (List.mem_cons_of_mem entry member)
      rw [List.foldl_cons, ih distinct.2 later, grown, List.length_cons]
      omega

def archivedIn (ok : Bool) (handled : List Handled) : List Entry :=
  (handled.filter fun one => one.ok = ok).map fun one => ⟨one.archived, one.entry.file⟩

/-- Every file that was handled has left the inbox for one of the archives, and one document has
come to the outbox for it. -/
structure Accounts {Request : Type} (codec : Codec Request) (handled : List Handled)
    (before after : Folders) : Prop where
  inbox : after .inbox = (before .inbox).filter fun entry =>
    entry.name ∉ handled.map fun one => one.entry.name
  processed : Adds (before .processed) (after .processed) (archivedIn true handled)
  error : Adds (before .error) (after .error) (archivedIn false handled)
  outbox : Adds (before .outbox) (after .outbox) (handled.map Handled.output)
  published : ∀ one ∈ handled, Published codec one

def Handed {Request : Type} (codec : Codec Request) (taken : List Entry)
    (before after : Folders) : Prop :=
  ∃ handled : List Handled, handled.map Handled.entry = taken ∧ Accounts codec handled before after

theorem filter_all (table : Table Entry) (keep : Entry → Bool) (all : ∀ entry, keep entry = true) :
    table.filter keep = table := by
  apply Table.rows_injective
  exact List.filter_eq_self.mpr fun entry _ => all entry

theorem accounts_none {Request : Type} (codec : Codec Request) (folders : Folders) :
    Accounts codec [] folders folders := by
  constructor
  · exact (filter_all _ _ fun _ => rfl).symm
  · exact adds_none _
  · exact adds_none _
  · exact adds_none _
  · exact fun _ member => absurd member List.not_mem_nil

theorem settle_inbox (one : Handled) (folders : Folders) :
    one.settle folders .inbox =
      (folders .inbox).filter fun entry => entry.name ≠ one.entry.name := by
  have outer : Place.inbox ≠ .outbox := by decide
  rw [Handled.settle, Folders.put_other _ _ outer,
    Folders.put_other _ _ (archiveOf_inbox one.ok).symm, Folders.remove_self]

theorem settle_outbox (one : Handled) (folders : Folders) :
    one.settle folders .outbox = (folders .outbox).put one.output := by
  have outer : Place.outbox ≠ .inbox := by decide
  rw [Handled.settle, Folders.put_self, Folders.put_other _ _ (archiveOf_outbox one.ok).symm,
    Folders.remove_other _ outer]

theorem settle_archive (one : Handled) (folders : Folders) :
    one.settle folders (archiveOf one.ok) =
      (folders (archiveOf one.ok)).put ⟨one.archived, one.entry.file⟩ := by
  rw [Handled.settle, Folders.put_other _ _ (archiveOf_outbox one.ok), Folders.put_self,
    Folders.remove_other _ (archiveOf_inbox one.ok)]

theorem settle_other (one : Handled) (folders : Folders) {ok : Bool} (apart : ok ≠ one.ok) :
    one.settle folders (archiveOf ok) = folders (archiveOf ok) := by
  have other : archiveOf ok ≠ archiveOf one.ok := by
    revert apart
    generalize one.ok = given
    revert ok given
    decide
  rw [Handled.settle, Folders.put_other _ _ (archiveOf_outbox ok), Folders.put_other _ _ other,
    Folders.remove_other _ (archiveOf_inbox ok)]

theorem free_name {folders : Folders} {place : Place} {name : String}
    (free : folders.find? ⟨place, name⟩ = none) : (folders place).find? name = none :=
  Option.map_eq_none_iff.mp free

section Accounting

variable {Request : Type} {codec : Codec Request} {one : Handled} {rest : List Handled}
  {before between after : Folders}

theorem archived_cons (ok : Bool) (settled : Settled codec one before between)
    (adds : Adds (between (archiveOf ok)) (after (archiveOf ok)) (archivedIn ok rest)) :
    Adds (before (archiveOf ok)) (after (archiveOf ok)) (archivedIn ok (one :: rest)) := by
  rw [settled.folders] at adds
  by_cases same : ok = one.ok
  · subst same
    rw [settle_archive] at adds
    have first : archivedIn one.ok (one :: rest) =
        ⟨one.archived, one.entry.file⟩ :: archivedIn one.ok rest := by
      simp [archivedIn]
    rw [first]
    exact adds_cons (free_name settled.archive) adds
  · rw [settle_other one before same] at adds
    have none_ : archivedIn ok (one :: rest) = archivedIn ok rest := by
      simp [archivedIn, Ne.symm same]
    rw [none_]
    exact adds

theorem accounts_cons (settled : Settled codec one before between)
    (accounts : Accounts codec rest between after) : Accounts codec (one :: rest) before after := by
  constructor
  · rw [accounts.inbox, settled.folders, settle_inbox]
    apply Table.rows_injective
    simp only [Table.filter, List.filter_filter, List.map_cons, List.mem_cons]
    apply List.filter_congr
    intro entry _
    by_cases same : entry.name = one.entry.name
    · simp [same]
    · simp [same]
  · exact archived_cons true settled accounts.processed
  · exact archived_cons false settled accounts.error
  · have adds := accounts.outbox
    rw [settled.folders, settle_outbox] at adds
    exact adds_cons (free_name settled.outbox) adds
  · intro other member
    rcases List.mem_cons.mp member with rfl | inside
    · exact settled.published
    · exact accounts.published other inside

theorem settled_inbox (settled : Settled codec one before between) {entry : Entry}
    (apart : entry.name ≠ one.entry.name)
    (stored : before.find? ⟨.inbox, entry.name⟩ = some entry.file) :
    between.find? ⟨.inbox, entry.name⟩ = some entry.file := by
  rw [settled.folders]
  simp only [Folders.find?, settle_inbox, Table.find?_filter]
  obtain ⟨kept, found, file⟩ := Option.map_eq_some_iff.mp stored
  have named : kept.name = entry.name := Table.find?_key _ found
  simp [found, Option.filter_some, named, apart, file]

end Accounting

/-! A whole run. -/

def readyEntries (folders : Folders) : List Entry :=
  (folders .inbox).rows.filter fun entry => isReadyFileName entry.name

-- The run could not read a file that it had taken, and has answered fewer files than it took.
def Stranded (taken : List Entry) (before after : Folders) : Prop :=
  (∃ entry ∈ taken, ¬ Readable entry) ∧
    ∃ added, added.length < taken.length ∧ Adds (before .outbox) (after .outbox) added

theorem stranded_cons {Request : Type} {codec : Codec Request} {one : Handled} {rest : List Entry}
    {before between after : Folders} (settled : Settled codec one before between)
    (stranded : Stranded rest between after) : Stranded (one.entry :: rest) before after := by
  obtain ⟨⟨entry, member, unreadable⟩, added, fewer, adds⟩ := stranded
  refine ⟨⟨entry, List.mem_cons_of_mem _ member, unreadable⟩, one.output :: added, ?_, ?_⟩
  · simpa using fewer
  · rw [settled.folders, settle_outbox] at adds
    exact adds_cons (free_name settled.outbox) adds

section Runs

variable {Request : Type} (codec : Codec Request) (outside : Outside Request) (processId : Nat)

theorem processEach_leads {taken : List Entry} {drive : Drive} (batch : FileDropRunAccumulator)
    (stored : ∀ entry ∈ taken, drive.folders.find? ⟨.inbox, entry.name⟩ = some entry.file)
    (ready : ∀ entry ∈ taken, isReadyFileName entry.name = true)
    (distinct : (taken.map Entry.name).Nodup) :
    Leads (answer outside processId)
      (fun all after => all.processedFiles = batch.processedFiles + taken.length ∧
        (∀ entry ∈ taken, Readable entry) ∧ Handed codec taken drive.folders after.folders)
      (fun failure after => failure.Crowded ∨ Stranded taken drive.folders after.folders)
      (processEach codec processId (taken.map Entry.name) batch) drive := by
  induction taken generalizing drive batch with
  | nil =>
      exact leads_done ⟨rfl, fun _ member => absurd member List.not_mem_nil, [], rfl,
        accounts_none codec _⟩
  | cons entry rest ih =>
      rw [List.map_cons, List.nodup_cons] at distinct
      have here := stored entry List.mem_cons_self
      apply leads_bind
      · apply leads_mono
          (processFileDropFile_leads codec outside processId here (ready entry List.mem_cons_self))
        · exact fun _ _ handled => handled
        · rintro failure after (crowded | ⟨unreadable, same⟩)
          · exact .inl crowded
          · refine .inr ⟨⟨entry, List.mem_cons_self, unreadable⟩, [], by simp, ?_⟩
            rw [same]
            exact adds_none _
      rintro view between ⟨readable, one, rfl, settled⟩
      have later : ∀ other ∈ rest,
          between.folders.find? ⟨.inbox, other.name⟩ = some other.file := by
        intro other member
        apply settled_inbox settled
        · intro same
          exact distinct.1 (same ▸ List.mem_map_of_mem member)
        · exact stored other (List.mem_cons_of_mem _ member)
      have calm : ∀ other ∈ rest, isReadyFileName other.name = true :=
        fun other member => ready other (List.mem_cons_of_mem _ member)
      apply leads_mono (ih (batch.count view) later calm distinct.2)
      · rintro all after ⟨counted, readables, handled, same, accounts⟩
        refine ⟨?_, ?_, one :: handled, by rw [List.map_cons, same], accounts_cons settled accounts⟩
        · rw [counted, List.length_cons]
          simp only [FileDropRunAccumulator.count]
          omega
        · intro other member
          rcases List.mem_cons.mp member with rfl | inside
          · exact readable
          · exact readables other inside
      · rintro failure after (crowded | stranded)
        · exact .inl crowded
        · exact .inr (stranded_cons settled stranded)

-- A folder lists its entries in the order of their names already.
theorem readyFiles_sorted (table : Table Entry) :
    ((table.rows.map Entry.name).filter isReadyFileName).insertionSort
        (fun left right => left ≤ right) =
      (table.rows.filter fun entry => isReadyFileName entry.name).map Entry.name := by
  rw [List.filter_map]
  apply List.Pairwise.insertionSort_eq
  rw [List.pairwise_map]
  apply (table.sorted.filter _).imp
  intro first last below
  exact le_of_lt below

theorem readyFiles_leads (drive : Drive) :
    Leads (answer outside processId)
      (fun names after => after = drive ∧ names = (readyEntries drive.folders).map Entry.name)
      (fun _ _ => False) readyFiles drive := by
  apply leads_perform
  exact leads_done ⟨rfl, readyFiles_sorted (drive.folders .inbox)⟩

theorem readyEntries_found {folders : Folders} {entry : Entry}
    (member : entry ∈ readyEntries folders) :
    folders.find? ⟨.inbox, entry.name⟩ = some entry.file ∧ isReadyFileName entry.name = true := by
  obtain ⟨stored, ready⟩ := List.mem_filter.mp member
  have found : (folders .inbox).find? entry.name = some entry := Table.find?_self _ entry stored
  exact ⟨by simp [Folders.find?, found], ready⟩

theorem readyEntries_distinct (folders : Folders) :
    ((readyEntries folders).map Entry.name).Nodup := by
  have sorted : ((readyEntries folders).map Entry.name).Pairwise fun first last => first < last :=
    List.pairwise_map.mpr ((folders .inbox).sorted.filter _)
  exact sorted.imp fun below => ne_of_lt below

def takenFiles (remaining : Option Nat) (folders : Folders) : List Entry :=
  (readyEntries folders).take (remaining.getD (readyEntries folders).length)

theorem processFileDropReadyFiles_leads (remaining : Option Nat) (drive : Drive) :
    Leads (answer outside processId)
      (fun batch after => batch.processedFiles = (takenFiles remaining drive.folders).length ∧
        (∀ entry ∈ takenFiles remaining drive.folders, Readable entry) ∧
        Handed codec (takenFiles remaining drive.folders) drive.folders after.folders)
      (fun failure after => failure.Crowded ∨
        Stranded (takenFiles remaining drive.folders) drive.folders after.folders)
      (processFileDropReadyFiles codec processId remaining) drive := by
  apply leads_bind
  · apply leads_mono (readyFiles_leads outside processId drive)
    · exact fun _ _ listed => listed
    · exact fun _ _ absurd_ => absurd_.elim
  rintro names after ⟨same, rfl⟩
  rw [same, ← List.map_take, List.length_map]
  have among : ∀ entry ∈ takenFiles remaining drive.folders, entry ∈ readyEntries drive.folders :=
    fun entry member => List.mem_of_mem_take member
  apply leads_mono (processEach_leads codec outside processId _
    (fun entry member => (readyEntries_found (among entry member)).1)
    (fun entry member => (readyEntries_found (among entry member)).2) _)
  · rintro batch after ⟨counted, handed⟩
    refine ⟨?_, handed⟩
    rw [counted]
    exact Nat.zero_add _
  · exact fun _ _ stopped => stopped
  · exact (readyEntries_distinct drive.folders).sublist ((List.take_sublist _ _).map _)

theorem processFileDropReadyFiles_idle (remaining : Option Nat) {drive : Drive}
    (idle : readyEntries drive.folders = []) :
    Leads (answer outside processId) (fun _ after => after.folders = drive.folders)
      (fun _ _ => False) (processFileDropReadyFiles codec processId remaining) drive := by
  apply leads_bind (readyFiles_leads outside processId drive)
  rintro names after ⟨same, rfl⟩
  rw [idle, List.map_nil, List.take_nil]
  exact leads_done (congrArg Drive.folders same)

theorem pollInbox_idle (args : FileDropArgs) (polls : Nat) (done : FileDropRunAccumulator)
    {drive : Drive} (idle : readyEntries drive.folders = []) :
    Leads (answer outside processId) (fun _ after => after.folders = drive.folders)
      (fun _ _ => False) (pollInbox codec processId args polls done) drive := by
  induction polls generalizing drive done with
  | zero => exact leads_done rfl
  | succ polls ih =>
      simp only [pollInbox]
      split
      · exact leads_done rfl
      · apply leads_bind (processFileDropReadyFiles_idle codec outside processId _ idle)
        intro batch after same
        have still : readyEntries after.folders = [] := same ▸ idle
        rw [← same]
        split
        · exact leads_done rfl
        · split
          · exact leads_done rfl
          · split
            · apply leads_perform
              by_cases passed : outside.deadlinePassed after.readings = true
              · simp only [answer, passed, if_true]
                exact leads_done rfl
              · simp only [answer, passed]
                exact ih _ still
            · exact ih _ still

-- A batch that was not cut short has left nothing ready.
theorem handed_idle {taken : List Entry} {before after : Folders}
    (handed : Handed codec taken before after) (whole : taken = readyEntries before) : readyEntries after = [] := by
  obtain ⟨handled, same, accounts⟩ := handed
  rw [readyEntries, accounts.inbox]
  apply List.filter_eq_nil_iff.mpr
  intro entry member ready
  obtain ⟨stored, kept⟩ := List.mem_filter.mp member
  have inside : entry ∈ handled.map Handled.entry := by
    rw [same, whole]
    exact List.mem_filter.mpr ⟨stored, ready⟩
  obtain ⟨one, listed, rfl⟩ := List.mem_map.mp inside
  have absent : one.entry.name ∉ handled.map fun one => one.entry.name := of_decide_eq_true kept
  exact absent (List.mem_map_of_mem listed)

theorem takenFiles_whole {remaining : Option Nat} {folders : Folders}
    (short : ∀ limit, remaining = some limit → (takenFiles remaining folders).length < limit) :
    takenFiles remaining folders = readyEntries folders := by
  unfold takenFiles
  cases remaining with
  | none => exact List.take_length
  | some limit =>
      apply List.take_of_length_le
      have fewer := short limit rfl
      simp only [takenFiles, Option.getD_some, List.length_take] at fewer ⊢
      omega

theorem pollInbox_leads (args : FileDropArgs) (polls : Nat) (done : FileDropRunAccumulator)
    (drive : Drive) :
    let taken := takenFiles (args.maxFiles.map fun maxFiles => maxFiles - done.processedFiles)
      drive.folders
    Leads (answer outside processId)
      (fun _ after => (∀ entry ∈ taken, Readable entry) ∧
        Handed codec taken drive.folders after.folders)
      (fun failure after => failure.Crowded ∨ Stranded taken drive.folders after.folders)
      (pollInbox codec processId args (polls + 1) done) drive := by
  intro taken
  simp only [pollInbox]
  split
  · rename_i none_
    have empty : taken = [] := by
      simp only [taken, none_, takenFiles, Option.getD_some, List.take_zero]
    rw [empty]
    exact leads_done ⟨fun _ member => absurd member List.not_mem_nil, [], rfl,
      accounts_none codec _⟩
  · apply leads_bind
    · apply leads_mono (processFileDropReadyFiles_leads codec outside processId _ drive)
      · exact fun _ _ handed => handed
      · exact fun _ _ stopped => stopped
    rintro batch after ⟨counted, readable, handed⟩
    split
    · exact leads_done ⟨readable, handed⟩
    · split
      · exact leads_done ⟨readable, handed⟩
      · rename_i unfinished
        have whole : taken = readyEntries drive.folders := by
          apply takenFiles_whole
          intro limit remaining
          obtain ⟨maxFiles, given, left⟩ := Option.map_eq_some_iff.mp remaining
          simp only [given, Option.any_some, FileDropRunAccumulator.merge, counted,
            decide_eq_true_eq] at unfinished
          rw [remaining]
          rw [Option.map_some, left] at unfinished
          omega
        have idle : readyEntries after.folders = [] := handed_idle codec handed whole
        -- From here on there is nothing to take.
        have rests {program : Routine Request FileDropRunAccumulator}
            (still : Leads (answer outside processId) (fun _ last => last.folders = after.folders)
              (fun _ _ => False) program after) :
            Leads (answer outside processId)
              (fun _ after => (∀ entry ∈ taken, Readable entry) ∧
                Handed codec taken drive.folders after.folders)
              (fun failure after => failure.Crowded ∨ Stranded taken drive.folders after.folders)
              program after := by
          apply leads_mono still
          · intro _ last same
            rw [same]
            exact ⟨readable, handed⟩
          · exact fun _ _ absurd_ => absurd_.elim
        apply rests
        split
        · apply leads_perform
          by_cases passed : outside.deadlinePassed after.readings = true
          · simp only [answer, passed, if_true]
            exact leads_done rfl
          · simp only [answer, passed]
            exact pollInbox_idle codec outside processId args polls _ idle
        · exact pollInbox_idle codec outside processId args polls _ idle

theorem runFileDropAdapter_leads (args : FileDropArgs) (polls : Nat) (drive : Drive) :
    Leads (answer outside processId)
      (fun _ after => (∀ entry ∈ takenFiles args.maxFiles drive.folders, Readable entry) ∧
        Handed codec (takenFiles args.maxFiles drive.folders) drive.folders after.folders)
      (fun failure after => failure.Crowded ∨
        Stranded (takenFiles args.maxFiles drive.folders) drive.folders after.folders ∨
        (takenFiles args.maxFiles drive.folders = [] ∧ after.folders = drive.folders))
      (runFileDropAdapter codec processId args polls) drive := by
  unfold runFileDropAdapter
  split
  · rename_i none_
    refine leads_stop (.inr (.inr ⟨?_, rfl⟩))
    simp only [none_, takenFiles, Option.getD_some, List.take_zero]
  · have leads := pollInbox_leads codec outside processId args polls (.empty 0) drive
    have whole : (args.maxFiles.map fun maxFiles =>
        maxFiles - (FileDropRunAccumulator.empty 0).processedFiles) = args.maxFiles := by
      cases args.maxFiles with
      | none => rfl
      | some maxFiles => rfl
    simp only [whole] at leads
    apply leads_mono leads
    · exact fun _ _ handed => handed
    · rintro failure after (crowded | stranded)
      · exact .inl crowded
      · exact .inr (.inl stranded)

theorem stranded_not_handed {taken : List Entry} {before after : Folders}
    (stranded : Stranded taken before after) : ¬ Handed codec taken before after := by
  rintro ⟨handled, rfl, accounts⟩
  obtain ⟨_, added, fewer, adds⟩ := stranded
  have answered := adds_length adds
  have expected := adds_length accounts.outbox
  rw [List.length_map] at fewer expected
  omega

/-- After a run that has found a name whenever it looked for one, every file it took is archived
with its bytes and answered by one new document, and nothing is overwritten, if and only if all the
files it took are valid UTF-8. -/
theorem handed_iff_readable (args : FileDropArgs) (polls : Nat) (drive : Drive)
    (uncrowded : ∀ failure, ((runFileDropAdapter codec processId args polls).run
      (answer outside processId) drive).1 = .error failure → ¬ failure.Crowded) :
    Handed codec (takenFiles args.maxFiles drive.folders) drive.folders
      ((runFileDropAdapter codec processId args polls).run
        (answer outside processId) drive).2.folders ↔
      ∀ entry ∈ takenFiles args.maxFiles drive.folders, Readable entry := by
  have leads := runFileDropAdapter_leads codec outside processId args polls drive
  unfold Leads at leads
  cases ran : (runFileDropAdapter codec processId args polls).run
      (answer outside processId) drive with
  | mk outcome after =>
      rw [ran] at leads uncrowded
      cases outcome with
      | ok all =>
          obtain ⟨readable, handed⟩ := leads
          exact ⟨fun _ => readable, fun _ => handed⟩
      | error failure =>
          rcases leads with crowded | stranded | ⟨none_, same⟩
          · exact absurd crowded (uncrowded failure rfl)
          · constructor
            · exact fun handed => absurd handed (stranded_not_handed codec stranded)
            · obtain ⟨⟨entry, member, unreadable⟩, _⟩ := stranded
              exact fun readable => absurd (readable entry member) unreadable
          · rw [none_]
            simp only [same]
            exact ⟨fun _ _ member => absurd member List.not_mem_nil,
              fun _ => ⟨[], rfl, accounts_none codec _⟩⟩

end Runs

/-! Two files that are no requests, of which one may not even be text. -/

def folderOf (entries : List Entry) : Table Entry := entries.foldl Table.put Table.empty

def driveOf (folders : Folders) : Drive := ⟨folders, 10, fun _ => 0, 0, 0⟩

-- No text is a request here, and a document is written as its kind and the name of its input.
def rejecting : Codec Unit where
  fromJsonStr _ := .error (MissiveError.validation "failed to parse file-drop request as JSON")
  requestId _ := ""
  fromStr _ := none
  toVecPretty document := s!"{document.kind} {document.inputFile}".toUTF8

def quiet : Outside Unit := ⟨fun _ _ => .ok [], fun _ => false⟩

def runOnce (drive : Drive) : Except Failure FileDropRunAccumulator × Drive :=
  (runFileDropAdapter rejecting 71 ⟨.once, none, false⟩ 0).run (answer quiet 71) drive

-- An earlier `a.json` is in the archive of errors already.
def dropped (content : ByteArray) : Drive := driveOf fun
  | .inbox => folderOf [⟨"a.json", ⟨0, content⟩⟩, ⟨"b.json", ⟨1, "later".toUTF8⟩⟩,
      ⟨"c.tmp", ⟨2, "partial".toUTF8⟩⟩]
  | .error => folderOf [⟨"a.json", ⟨3, "earlier".toUTF8⟩⟩]
  | _ => Table.empty

def listing (folders : Folders) : List (List (String × Nat)) :=
  [Place.inbox, .outbox, .processed, .error].map fun place =>
    (folders place).rows.map fun entry => (entry.name, entry.file.serial)

theorem rubbish_handed :
    listing (runOnce (dropped "rubbish".toUTF8)).2.folders =
      [[("c.tmp", 2)], [("a.error.json", 10), ("b.error.json", 11)], [],
        [("a-1.json", 0), ("a.json", 3), ("b.json", 1)]] ∧
    Handed rejecting (takenFiles none (dropped "rubbish".toUTF8).folders)
      (dropped "rubbish".toUTF8).folders (runOnce (dropped "rubbish".toUTF8)).2.folders := by
  refine ⟨by decide,
    (handed_iff_readable rejecting quiet 71 ⟨.once, none, false⟩ 0 _ ?_).mpr (by decide)⟩
  intro failure stopped
  have ended : (runOnce (dropped "rubbish".toUTF8)).1.isOk = true := by decide
  rw [runOnce, stopped] at ended
  cases ended

def stoppedWith : Except Failure FileDropRunAccumulator → Option MissiveError
  | .ok _ => none
  | .error failure => some (failure.report ⟨"in", "out", "in/processed", "in/error"⟩)

/-- A file that is not UTF-8 is left under its hidden name without an answer, and the file behind it
is not taken any more. -/
theorem unreadable_strands :
    stoppedWith (runOnce (dropped ⟨#[0xff]⟩)).1 = some ⟨.io,
      "I/O error while reading claimed file-drop input in/processed/.a.json.processing-71-0: " ++
        "stream did not contain valid UTF-8", none⟩ ∧
    listing (runOnce (dropped ⟨#[0xff]⟩)).2.folders =
      [[("b.json", 1), ("c.tmp", 2)], [], [(".a.json.processing-71-0", 0)], [("a.json", 3)]] ∧
    ¬ Handed rejecting (takenFiles none (dropped ⟨#[0xff]⟩).folders) (dropped ⟨#[0xff]⟩).folders
      (runOnce (dropped ⟨#[0xff]⟩)).2.folders := by
  refine ⟨by decide, by decide, stranded_not_handed rejecting ⟨by decide, [], by decide, ?_⟩⟩
  have silent : (runOnce (dropped ⟨#[0xff]⟩)).2.folders .outbox = Table.empty :=
    Table.rows_injective (by decide)
  rw [silent]
  exact adds_none _

end Missive.FileDropHandoff
