import Missive.Groups
import Missive.Memberships

/-! The group directory that the group commands keep. A command is either refused by its own checks
and leaves everything as it was, or writes one change of the directory and goes on to journal it:
the constraints of the database never stop it. -/
namespace Missive.GroupDirectory

open JsonValue KeyedTable Missive.Core Schema Effects Repository RecordUpserts Groups Memberships
open TableRenaming
open Collectives (listGroupMembers)
open GroupTables (memberKey renamedGroup renamedMember withGroupRenamed withoutGroup
  withoutMember)

/-! The directory of a store, with free text as the output redactor shows it. -/

structure GroupEntry where
  routingPolicy : Json
  notes : Json
  metadata : Json

structure MemberEntry where
  rank : String
  tags : Json
  weight : Json
  routingMetadata : Json

abbrev GroupChange := Change GroupName AgentAlias GroupEntry MemberEntry

abbrev shown (value : Json) : Json := JsonRedaction.outputRedactJson value

def groupEntry (record : GroupRecord) : GroupEntry where
  routingPolicy := shown (.string record.routingPolicy)
  notes := shown (Json.ofOption .string record.notes)
  metadata := shown record.metadata.toJson

def memberEntry (record : GroupMemberRecord) : MemberEntry where
  rank := record.rankName.text
  tags := shown (.array (record.tags.map .string))
  weight := shown (.number (.float record.weight))
  routingMetadata := shown record.routingMetadata.toJson

def directoryOf (store : Store) : Directory GroupName AgentAlias GroupEntry MemberEntry where
  groups name := (store.groups.find? name).map groupEntry
  members name agent := (store.groupMembers.find? (memberKey name agent)).map memberEntry

/-! What the statements do to the directory. -/

section Statements

variable {store : Store}

theorem directoryOf_create (record : GroupRecord) :
    directoryOf { store with groups := store.groups.put record } =
      (directoryOf store).apply (.create record.groupName (groupEntry record)) := by
  apply Directory.ext_members
  · intro wanted
    by_cases same : wanted = record.groupName
    · simp [directoryOf, Directory.apply, Table.find?_put, same, key]
    · simp [directoryOf, Directory.apply, Table.find?_put, same, key]
  · intro wanted agent
    rfl

theorem memberKey_iff {first last : GroupName} {one other : AgentAlias} :
    memberKey first one = memberKey last other ↔ first = last ∧ one = other := by
  simp [memberKey]

theorem directoryOf_enroll (record : GroupMemberRecord) :
    directoryOf { store with groupMembers := store.groupMembers.put record } =
      (directoryOf store).apply
        (.enroll record.groupName record.agentAlias (memberEntry record)) := by
  apply Directory.ext_members
  · intro wanted
    rfl
  · intro wanted agent
    have keyed : key record = memberKey record.groupName record.agentAlias := rfl
    by_cases same : wanted = record.groupName ∧ agent = record.agentAlias
    · simp [directoryOf, Directory.apply, Table.find?_put, keyed, memberKey_iff, same]
    · simp [directoryOf, Directory.apply, Table.find?_put, keyed, memberKey_iff, same]

theorem memberKey_found {wanted : GroupName} {agent : AgentAlias} {row : GroupMemberRecord}
    (found : store.groupMembers.find? (memberKey wanted agent) = some row) :
    row.groupName = wanted ∧ row.agentAlias = agent :=
  memberKey_iff.mp (store.groupMembers.find?_key found)

theorem directoryOf_dismiss (groupName : GroupName) (agentAlias : AgentAlias) :
    directoryOf (withoutMember store groupName agentAlias) =
      (directoryOf store).apply (.dismiss groupName agentAlias) := by
  apply Directory.ext_members
  · intro wanted
    rfl
  · intro wanted agent
    simp only [directoryOf, Directory.apply, withoutMember, Table.find?_filter]
    cases found : store.groupMembers.find? (memberKey wanted agent) with
    | none => simp
    | some row =>
        have named := memberKey_found found
        by_cases same : wanted = groupName ∧ agent = agentAlias
        · simp [Option.filter, named.1, named.2, same]
        · simp [Option.filter, named.1, named.2, same]

theorem directoryOf_delete (name : GroupName) :
    directoryOf (withoutGroup store name) = (directoryOf store).apply (.delete name) := by
  apply Directory.ext_members
  · intro wanted
    simp only [directoryOf, Directory.apply, withoutGroup, Table.find?_filter]
    cases found : store.groups.find? wanted with
    | none => simp
    | some row =>
        have named : row.groupName = wanted := store.groups.find?_key found
        by_cases same : wanted = name
        · simp [Option.filter, named, same]
        · simp [Option.filter, named, same]
  · intro wanted agent
    simp only [directoryOf, Directory.apply, withoutGroup, Table.find?_filter]
    cases found : store.groupMembers.find? (memberKey wanted agent) with
    | none => simp
    | some row =>
        have named := memberKey_found found
        by_cases same : wanted = name
        · simp [Option.filter, named.1, same]
        · simp [Option.filter, named.1, same]

theorem directoryOf_forget (name : AgentAlias) :
    directoryOf (withoutAgent store name) = (directoryOf store).apply (.forget name) := by
  apply Directory.ext_members
  · intro wanted
    rfl
  · intro wanted agent
    simp only [directoryOf, Directory.apply, withoutAgent, Table.find?_filter]
    cases found : store.groupMembers.find? (memberKey wanted agent) with
    | none => simp
    | some row =>
        have named := memberKey_found found
        by_cases same : agent = name
        · simp [Option.filter, named.2, same]
        · simp [Option.filter, named.2, same]

end Statements

/-! A renaming to a name that no group has. -/

section Renaming

variable {store : Store} {old new : GroupName} {time : MilliTime}

structure Free (store : Store) (new : GroupName) : Prop where
  groups : ∀ row ∈ store.groups.rows, row.groupName ≠ new
  members : ∀ row ∈ store.groupMembers.rows, row.groupName ≠ new

theorem renamedGroup_name (row : GroupRecord) :
    (renamedGroup old new time row).groupName =
      if row.groupName = old then new else row.groupName := by
  unfold renamedGroup
  split <;> rfl

theorem renamedMember_name (row : GroupMemberRecord) :
    (renamedMember old new row).groupName = if row.groupName = old then new else row.groupName := by
  unfold renamedMember
  split <;> rfl

theorem renamedMember_agent (row : GroupMemberRecord) :
    (renamedMember old new row).agentAlias = row.agentAlias := by
  unfold renamedMember
  split <;> rfl

theorem groupEntry_renamed (row : GroupRecord) :
    groupEntry (renamedGroup old new time row) = groupEntry row := by
  unfold renamedGroup
  split <;> rfl

theorem memberEntry_renamed (row : GroupMemberRecord) :
    memberEntry (renamedMember old new row) = memberEntry row := by
  unfold renamedMember
  split <;> rfl

theorem renamed_injective {first last : GroupName} (left : first ≠ new) (right : last ≠ new)
    (same : (if first = old then new else first) = if last = old then new else last) :
    first = last := by
  by_cases front : first = old
  · by_cases back : last = old
    · exact front.trans back.symm
    · rw [if_pos front, if_neg back] at same
      exact absurd same.symm right
  · by_cases back : last = old
    · rw [if_neg front, if_pos back] at same
      exact absurd same left
    · rwa [if_neg front, if_neg back] at same

theorem groups_apart (free : Free store new) : Apart store.groups (renamedGroup old new time) := by
  intro first left last right same
  have names : (renamedGroup old new time first).groupName =
    (renamedGroup old new time last).groupName := same
  rw [renamedGroup_name, renamedGroup_name] at names
  exact renamed_injective (free.groups first left) (free.groups last right) names

theorem members_apart (free : Free store new) :
    Apart store.groupMembers (renamedMember old new) := by
  intro first left last right same
  have names := memberKey_iff.mp same
  rw [renamedMember_name, renamedMember_name, renamedMember_agent, renamedMember_agent] at names
  exact memberKey_iff.mpr
    ⟨renamed_injective (free.members first left) (free.members last right) names.1, names.2⟩

-- A row has its wanted name after the renaming exactly when it had the former one.
theorem former_iff {name wanted : GroupName} (free : name ≠ new) (different : old ≠ new) :
    (if name = old then new else name) = wanted ↔ Directory.former old new wanted = some name := by
  unfold Directory.former
  by_cases own : name = old
  · by_cases asked : wanted = new
    · simp [own, asked]
    · by_cases past : wanted = old
      · simp [own, past, different, different.symm]
      · simp [own, asked, past, Ne.symm asked]
  · by_cases asked : wanted = new
    · simp [own, asked, free, Ne.symm own]
    · by_cases past : wanted = old
      · simp [own, past, different]
      · simp [own, asked, past, eq_comm]

theorem directoryOf_rename (free : Free store new) (different : old ≠ new) :
    directoryOf (withGroupRenamed store old new time) =
      (directoryOf store).apply (.rename old new) := by
  apply Directory.ext_members
  · intro wanted
    simp only [directoryOf, Directory.apply, withGroupRenamed]
    have back (row : GroupRecord) (member : row ∈ store.groups.rows) :
        key (renamedGroup old new time row) = wanted ↔
          Directory.former old new wanted = some row.groupName := by
      rw [← former_iff (free.groups row member) different, ← @renamedGroup_name old new time]
      rfl
    cases source : Directory.former old new wanted with
    | none =>
        rw [find?_rekey_none (groups_apart free)]
        · rfl
        · intro row member named
          rw [back row member, source] at named
          cases named
    | some name =>
        rw [find?_rekey (groups_apart free) name]
        · simp [Option.map_map, Function.comp_def, groupEntry_renamed]
        · intro row member
          rw [back row member, source, Option.some.injEq, eq_comm]
          rfl
  · intro wanted agent
    simp only [directoryOf, Directory.apply, withGroupRenamed]
    have back (row : GroupMemberRecord) (member : row ∈ store.groupMembers.rows) :
        key (renamedMember old new row) = memberKey wanted agent ↔
          Directory.former old new wanted = some row.groupName ∧ row.agentAlias = agent := by
      rw [← former_iff (free.members row member) different, ← renamedMember_name,
        ← @renamedMember_agent old new row]
      exact memberKey_iff
    cases source : Directory.former old new wanted with
    | none =>
        rw [find?_rekey_none (members_apart free)]
        · rfl
        · intro row member named
          rw [back row member, source] at named
          cases named.1
    | some name =>
        rw [find?_rekey (members_apart free) (memberKey name agent)]
        · simp [Option.map_map, Function.comp_def, memberEntry_renamed]
        · intro row member
          rw [back row member, source, Option.some.injEq, eq_comm]
          exact memberKey_iff.symm

end Renaming

/-! How a command runs: it checks, it writes, and it journals. -/

structure Note where
  eventType : String
  groupName : Option GroupName
  agentAlias : Option AgentAlias
  payload : Json

def Note.append (note : Note) : Action Unit :=
  appendGroupEvent note.eventType note.groupName note.agentAlias note.payload

-- The event that tells of a change.
inductive Notes : GroupChange → Note → Prop where
  | create (record : GroupRecord) :
      Notes (.create record.groupName (groupEntry record))
        ⟨"missive.group.create", some record.groupName, none, createPayload record⟩
  | enroll (member : GroupMemberRecord) :
      Notes (.enroll member.groupName member.agentAlias (memberEntry member))
        ⟨"missive.group.member.add", some member.groupName, some member.agentAlias,
          addPayload member.groupName member.agentAlias member⟩
  | dismiss (groupName : GroupName) (agentAlias : AgentAlias) (view : GroupMemberView) :
      Notes (.dismiss groupName agentAlias)
        ⟨"missive.group.member.remove", some groupName, some agentAlias,
          removePayload groupName agentAlias view⟩
  | rename (old new : GroupName) :
      Notes (.rename old new) ⟨"missive.group.rename", some new, none, renamePayload old new⟩
  | delete (name : GroupName) (view : GroupView) :
      Notes (.delete name) ⟨"missive.group.delete", none, none, deletePayload name view⟩

/-- What is written before the event, and what the event says. -/
structure Writes (before : Store) (note : Note) (written : Store) (change : GroupChange) :
    Prop where
  notes : Notes change note
  allowed : Directory.Allows MemberEntry.rank (directoryOf before) change
  changed : directoryOf written = (directoryOf before).apply change
  agents : written.agents = before.agents
  registered : ∀ group agent member, change = .enroll group agent member →
    (before.agents.find? agent).isSome = true
  journal : written.events.rows.map (fun row => (row.eventType, row.payloadJson)) =
    before.events.rows.map fun row => (row.eventType, row.payloadJson)

section Turns

variable {Result Other : Type} {world middle written : World} {note : Note}
  {asks : GroupChange → Prop}

-- The command has written and goes on to append the event and to read its output.
def Journals (note : Note) (written : World) (action : Action Result) (world : World) : Prop :=
  ∃ view : Store → Result,
    action world = (note.append >>= fun _ => readStore view) written

def Refuses (action : Action Result) (world : World) : Prop :=
  ∃ error, action world = (.error error, world) ∧ error.category = .validation

/-- The command is refused, or it writes a change that it was asked for. -/
def Turns (asks : GroupChange → Prop) (action : Action Result) (world : World) : Prop :=
  Refuses action world ∨ ∃ note written change, asks change ∧
    Writes world.store note written.store change ∧ Journals note written action world

-- A check, of which every error is a validation error.
def Validates (value : Except MissiveError Result) : Prop :=
  ∀ error, value = .error error → error.category = .validation

theorem journals_step {first : Action Other} {next : Other → Action Result} {other : Other}
    (ran : first world = (.ok other, middle)) (rest : Journals note written (next other) middle) :
    Journals note written (first >>= next) world := by
  obtain ⟨view, goes⟩ := rest
  exact ⟨view, (Effect.bind_ok _ _ _ _ _ ran).trans goes⟩

theorem turns_read {query : Store → Other} {next : Other → Action Result}
    (go : Turns asks (next (query world.store)) world) :
    Turns asks (readStore query >>= next) world := go

-- Some statements read the clock on the way.
theorem turns_written {first : Action Other} {next : Other → Action Result} {other : Other}
    {start : World} {store : Store} {change : GroupChange}
    (ran : first world = (.ok other, start.withStore store)) (asked : asks change)
    (writes : Writes world.store note store change)
    (rest : Journals note (start.withStore store) (next other) (start.withStore store)) :
    Turns asks (first >>= next) world :=
  Or.inr ⟨note, start.withStore store, change, asked, writes, journals_step ran rest⟩

/-- A check reads the world and leaves it: it refuses, or it returns what it found. -/
def Guards (first : Action Other) (world : World) (known : Other → Prop) : Prop :=
  Refuses first world ∨ ∃ other, first world = (.ok other, world) ∧ known other

theorem turns_guard {first : Action Other} {known : Other → Prop} {next : Other → Action Result}
    (guards : Guards first world known)
    (go : ∀ other, known other → Turns asks (next other) world) :
    Turns asks (first >>= next) world := by
  rcases guards with ⟨error, failed, invalid⟩ | ⟨other, ran, found⟩
  · exact Or.inl ⟨error, Effect.bind_error _ _ _ _ _ failed, invalid⟩
  · have rest := go other found
    simpa only [Turns, Refuses, Journals, Effect.bind_ok _ _ _ _ _ ran] using rest

theorem guards_lift {value : Except MissiveError Other} (validates : Validates value) :
    Guards (Effect.lift value) world fun other => value = .ok other := by
  cases checked : value with
  | error error => exact Or.inl ⟨error, rfl, validates error checked⟩
  | ok other => exact Or.inr ⟨other, rfl, rfl⟩

theorem getExistingGroup_found {name : GroupName} {record : GroupRecord}
    (known : world.store.groups.find? name = some record) :
    getExistingGroup name world = (.ok record, world) := by
  simp [getExistingGroup, Collectives.getGroup, readStore, Effect.bind_run, known]

theorem guards_existingGroup (name : GroupName) :
    Guards (getExistingGroup name) world fun record =>
      world.store.groups.find? name = some record := by
  cases known : world.store.groups.find? name with
  | none =>
      left
      apply Exists.intro
      constructor
      · simp only [getExistingGroup, Collectives.getGroup, readStore, Effect.bind_run, known]
        rfl
      · rfl
  | some record => exact Or.inr ⟨record, getExistingGroup_found known, rfl⟩

theorem guards_groupAbsent (name : GroupName) :
    Guards (ensureGroupAbsent name) world fun _ => world.store.groups.find? name = none := by
  cases known : world.store.groups.find? name with
  | none =>
      refine Or.inr ⟨(), ?_, rfl⟩
      simp [ensureGroupAbsent, Collectives.getGroup, readStore, Effect.bind_run, known]
  | some record =>
      left
      apply Exists.intro
      constructor
      · simp only [ensureGroupAbsent, Collectives.getGroup, readStore, Effect.bind_run, known]
        rfl
      · rfl

theorem guards_existingAgent (name : AgentAlias) :
    Guards (getExistingAgent name) world fun record =>
      world.store.agents.find? name = some record := by
  cases known : world.store.agents.find? name with
  | none =>
      left
      apply Exists.intro
      constructor
      · simp only [getExistingAgent, getAgent, readStore, Effect.bind_run, known]
        rfl
      · rfl
  | some record =>
      refine Or.inr ⟨record, ?_, rfl⟩
      simp [getExistingAgent, getAgent, readStore, Effect.bind_run, known]

theorem mem_listGroupMembers {store : Store} {name : GroupName} {member : GroupMemberRecord} :
    member ∈ listGroupMembers store name ↔
      member ∈ store.groupMembers.rows ∧ member.groupName = name := by
  simp [listGroupMembers, List.mem_mergeSort]

theorem guards_rankAvailable (groupName : GroupName) (rankName : RankName)
    (agentAlias : AgentAlias) :
    Guards (ensureRankAvailable groupName rankName agentAlias) world fun _ =>
      ∀ row ∈ world.store.groupMembers.rows, row.groupName = groupName → row.rankName = rankName →
        row.agentAlias = agentAlias := by
  cases found : (listGroupMembers world.store groupName).find? fun member =>
      member.rankName = rankName && member.agentAlias ≠ agentAlias with
  | none =>
      refine Or.inr ⟨(), ?_, ?_⟩
      · simp only [ensureRankAvailable, readStore, Effect.bind_run, found]
        rfl
      · intro row stored grouped ranked
        have unfit := List.find?_eq_none.mp found row (mem_listGroupMembers.mpr ⟨stored, grouped⟩)
        simpa [ranked] using unfit
  | some member =>
      left
      apply Exists.intro
      constructor
      · simp only [ensureRankAvailable, readStore, Effect.bind_run, found]
        rfl
      · rfl

theorem guards_existingMember (groupName : GroupName) (agentAlias : AgentAlias) :
    Guards (getExistingMember groupName agentAlias) world fun member =>
      world.store.groupMembers.find? (memberKey groupName agentAlias) = some member := by
  cases found : (listGroupMembers world.store groupName).find? fun member =>
      member.agentAlias = agentAlias with
  | none =>
      left
      apply Exists.intro
      constructor
      · simp only [getExistingMember, readStore, Effect.bind_run, found]
        rfl
      · rfl
  | some member =>
      refine Or.inr ⟨member, ?_, ?_⟩
      · simp only [getExistingMember, readStore, Effect.bind_run, found]
        rfl
      · have listed := mem_listGroupMembers.mp (List.mem_of_find?_eq_some found)
        have named : member.agentAlias = agentAlias := by simpa using List.find?_some found
        exact (Table.find?_eq_some _ _ _).mpr ⟨listed.1, memberKey_iff.mpr ⟨listed.2, named⟩⟩

/-! The checks of the arguments. -/

theorem validates_new (kind : IdKind) (value : String) : Validates (Id.new kind value) := by
  intro error refused
  unfold Id.new at refused
  split at refused
  · cases refused
  · cases refused
    rfl

theorem validates_bind {first : Except MissiveError Other}
    {next : Other → Except MissiveError Result} (head : Validates first)
    (tail : ∀ other, Validates (next other)) : Validates (first >>= next) := by
  intro error refused
  cases checked : first with
  | error early =>
      rw [checked] at refused
      cases refused
      exact head _ checked
  | ok other =>
      rw [checked] at refused
      exact tail other error refused

theorem validates_ok (result : Result) : Validates (.ok result) := by
  intro error refused
  cases refused

theorem validates_error {error : MissiveError} (invalid : error.category = .validation) :
    Validates (.error error : Except MissiveError Result) := by
  intro other refused
  cases refused
  exact invalid

theorem validates_foldlM {step : Result → Other → Except MissiveError Result}
    (each : ∀ result other, Validates (step result other)) (items : List Other) (start : Result) :
    Validates (items.foldlM step start) := by
  induction items generalizing start with
  | nil => exact validates_ok start
  | cons item rest ih =>
      rw [List.foldlM_cons]
      exact validates_bind (each start item) ih

theorem validates_routingPolicy (value : String) : Validates (parseRoutingPolicy value) := by
  unfold parseRoutingPolicy
  split
  · exact validates_ok _
  · exact validates_error rfl

theorem validates_notes (value : Option String) : Validates (parseNotes value) := by
  cases value with
  | none => exact validates_ok _
  | some text =>
      refine validates_bind ?_ fun _ => validates_ok _
      unfold Contexts.validateOptionalText
      simp only
      split
      · exact validates_error rfl
      · split
        · exact validates_error rfl
        · split
          · exact validates_error rfl
          · exact validates_ok _

theorem validates_tags (values : List String) : Validates (parseTags values) := by
  refine validates_bind ?_ fun _ => validates_ok _
  induction values with
  | nil => exact validates_ok ()
  | cons value rest ih =>
      refine validates_bind ?_ fun _ => ih
      unfold validateNamedCliIdentifier
      split
      · exact validates_ok ()
      · exact validates_error rfl

theorem validates_keyValue (flag value : String) :
    Validates (Contexts.splitKeyValue flag value) := by
  unfold Contexts.splitKeyValue
  split
  · exact validates_error rfl
  · split
    · exact validates_error rfl
    · exact validates_ok _

theorem validates_insert (metadata : Metadata) (name : String) (value : Json) :
    Validates (metadata.insert name value) := by
  unfold Metadata.insert
  split
  · exact validates_ok _
  · exact validates_error rfl

theorem validates_metadata (fromStr : String → Option Json) (flag : String) (values : List String) :
    Validates (parseMetadata fromStr flag values) := by
  refine validates_foldlM ?_ values _
  intro metadata value
  refine validates_bind (validates_keyValue flag value) fun pair => ?_
  refine validates_bind (validates_insert metadata pair.1 _) fun grown => ?_
  split
  · exact validates_error rfl
  · exact validates_ok _

theorem validates_names (old new : GroupName) : Validates (differentNames old new) := by
  unfold differentNames
  split
  · exact validates_error rfl
  · exact validates_ok _

theorem differentNames_passed {old new : GroupName} {result : Unit}
    (passed : differentNames old new = .ok result) : old ≠ new := by
  intro same
  rw [differentNames, if_pos same] at passed
  cases passed

end Turns

/-! The commands. -/

inductive GroupCommand where
  | create (args : GroupCreateArgs)
  | add (args : GroupAddArgs)
  | remove (args : GroupMemberSelectorArgs)
  | rename (args : GroupRenameArgs)
  | delete (group : String)

def GroupCommand.run (fromStr : String → Option Json) (display : UInt64 → String) :
    GroupCommand → Action Unit
  | .create args => CardCaching.discard (createGroup fromStr args)
  | .add args => CardCaching.discard (addGroupMember fromStr display args)
  | .remove args => CardCaching.discard (removeGroupMember args)
  | .rename args => CardCaching.discard (renameGroup args)
  | .delete group => CardCaching.discard (deleteGroup group)

-- The changes that the arguments of a command name.
inductive GroupCommand.Asks : GroupCommand → GroupChange → Prop where
  | create {args : GroupCreateArgs} {name : GroupName} {entry : GroupEntry}
      (named : Id.new .groupName args.group = .ok name) :
      Asks (.create args) (.create name entry)
  | add {args : GroupAddArgs} {groupName : GroupName} {agentAlias : AgentAlias}
      {member : MemberEntry} (grouped : Id.new .groupName args.group = .ok groupName)
      (owned : Id.new .agentAlias args.agent = .ok agentAlias) (ranked : member.rank = args.rank) :
      Asks (.add args) (.enroll groupName agentAlias member)
  | remove {args : GroupMemberSelectorArgs} {groupName : GroupName} {agentAlias : AgentAlias}
      (grouped : Id.new .groupName args.group = .ok groupName)
      (owned : Id.new .agentAlias args.agent = .ok agentAlias) :
      Asks (.remove args) (.dismiss groupName agentAlias)
  | rename {args : GroupRenameArgs} {old new : GroupName}
      (before : Id.new .groupName args.group = .ok old)
      (after : Id.new .groupName args.newGroup = .ok new) :
      Asks (.rename args) (.rename old new)
  | delete {group : String} {name : GroupName} (named : Id.new .groupName group = .ok name) :
      Asks (.delete group) (.delete name)

section Commands

variable {world : World}

theorem routingPolicy_named {value policy : String}
    (parsed : parseRoutingPolicy value = .ok policy) :
    policy.isEmpty = false := by
  unfold parseRoutingPolicy at parsed
  split at parsed
  · rename_i kind _
    cases parsed
    cases kind <;> rfl
  · cases parsed

theorem createGroup_turns (fromStr : String → Option Json) (args : GroupCreateArgs) :
    Turns (GroupCommand.create args).Asks (createGroup fromStr args) world := by
  apply turns_guard (guards_lift (validates_new _ _))
  intro name named
  apply turns_guard (guards_groupAbsent name)
  intro _ _
  apply turns_guard (guards_lift (validates_routingPolicy _))
  intro policy parsed
  apply turns_guard (guards_lift (validates_notes _))
  intro notes _
  apply turns_guard (guards_lift (validates_metadata fromStr "--metadata" _))
  intro metadata _
  have checked : GroupUpsert.check ⟨name, policy, notes, metadata⟩ = .ok () := by
    simp [GroupUpsert.check, validateNonEmpty, routingPolicy_named parsed]
  obtain ⟨record, owned, wrote⟩ := @GroupTables.upsertGroup_writes world _ checked
  have writes : Writes world.store _
      { world.store with groups := world.store.groups.put record } _ :=
    ⟨.create record, trivial, directoryOf_create record, rfl, nofun, rfl⟩
  exact turns_written wrote (.create (owned ▸ named)) writes ⟨_, rfl⟩

theorem rank_free {groupName : GroupName} {rankName : RankName} {agentAlias : AgentAlias}
    (available : ∀ row ∈ world.store.groupMembers.rows, row.groupName = groupName →
      row.rankName = rankName → row.agentAlias = agentAlias) :
    GroupTables.rankTaken world.store groupName rankName agentAlias = false := by
  rw [GroupTables.rankTaken, List.any_eq_false]
  intro row stored
  have own := available row stored
  simp only [ne_eq, decide_not, Bool.and_eq_true, decide_eq_true_eq, Bool.not_eq_true',
    decide_eq_false_iff_not, not_and, not_not]
  exact fun same => own same.1 same.2

theorem validates_weight (display : UInt64 → String) (weight : UInt64) :
    Validates (validatePositiveWeight display weight) := by
  unfold validatePositiveWeight
  split
  · exact validates_ok ()
  · exact validates_error rfl

theorem addGroupMember_turns (fromStr : String → Option Json) (display : UInt64 → String)
    (args : GroupAddArgs) :
    Turns (GroupCommand.add args).Asks (addGroupMember fromStr display args) world := by
  apply turns_guard (guards_lift (validates_new _ _))
  intro groupName groupRead
  apply turns_guard (guards_existingGroup groupName)
  intro group housed
  apply turns_guard (guards_lift (validates_new _ _))
  intro agentAlias agentRead
  apply turns_guard (guards_existingAgent agentAlias)
  intro agent registered
  apply turns_guard (guards_lift (validates_new _ _))
  intro rankName rankRead
  apply turns_guard (guards_rankAvailable groupName rankName agentAlias)
  intro _ available
  apply turns_guard (guards_lift (validates_tags _))
  intro tags _
  apply turns_guard (guards_lift (validates_metadata fromStr "--routing-metadata" _))
  intro routingMetadata _
  cases weighed : validatePositiveWeight display args.weight with
  | error error =>
      refine Or.inl ⟨error, Effect.bind_error _ _ _ _ _ ?_,
        validates_weight display _ error weighed⟩
      rw [GroupTables.upsertGroupMember, weighed]
      rfl
  | ok _ =>
      have accepted : GroupTables.GroupMemberUpsert.refused
          ⟨groupName, agentAlias, rankName, tags, args.weight,
            routingMetadata⟩ world.store = none := by
        simp [GroupTables.GroupMemberUpsert.refused, rank_free available, Store.hasGroup, housed,
          Store.hasAgent, registered, refuseUnless]
      obtain ⟨record, grouped, owned, ranked, wrote⟩ :=
        GroupTables.upsertGroupMember_writes weighed accepted
      have allowed : Directory.Allows MemberEntry.rank (directoryOf world.store)
          (.enroll record.groupName record.agentAlias (memberEntry record)) := by
        refine ⟨by simp [directoryOf, grouped, housed], ?_⟩
        intro other held stored ranks
        simp only [directoryOf, Option.map_eq_some_iff] at stored
        obtain ⟨row, found, rfl⟩ := stored
        have named := memberKey_found found
        have member := ((world.store.groupMembers.find?_eq_some _ _).mp found).1
        have sameRank : row.rankName = rankName := (Id.ext_text ranks).trans ranked
        rw [owned, ← named.2]
        exact available row member (named.1.trans grouped) sameRank
      have again : getExistingGroup groupName (world.later.withStore
          { world.store with groupMembers := world.store.groupMembers.put record }) =
          (.ok group, _) := getExistingGroup_found housed
      have known (groupName' : GroupName) (agent' : AgentAlias) (member : MemberEntry)
          (same : Change.enroll record.groupName record.agentAlias (memberEntry record) =
            (.enroll groupName' agent' member : GroupChange)) :
          (world.store.agents.find? agent').isSome = true := by
        cases same
        rw [owned, registered]
        rfl
      have asked : (GroupCommand.add args).Asks
          (.enroll record.groupName record.agentAlias (memberEntry record)) := by
        refine .add (grouped ▸ groupRead) (owned ▸ agentRead) ?_
        exact (congrArg Id.text ranked).trans (Id.text_of_new rankRead)
      refine turns_written wrote asked
        ⟨.enroll record, allowed, directoryOf_enroll record, rfl, known, rfl⟩
        (journals_step again ⟨fun store =>
          (GroupView.fromRecord store group, GroupMemberView.fromRecord record), ?_⟩)
      rw [grouped, owned]
      rfl

theorem removeGroupMember_turns (args : GroupMemberSelectorArgs) :
    Turns (GroupCommand.remove args).Asks (removeGroupMember args) world := by
  apply turns_guard (guards_lift (validates_new _ _))
  intro groupName grouped
  apply turns_guard (guards_existingGroup groupName)
  intro group housed
  apply turns_guard (guards_lift (validates_new _ _))
  intro agentAlias owned
  apply turns_guard (guards_existingMember groupName agentAlias)
  intro member found
  have writes : Writes world.store _ (withoutMember world.store groupName agentAlias) _ :=
    ⟨.dismiss groupName agentAlias (GroupMemberView.fromRecord member), trivial,
      directoryOf_dismiss groupName agentAlias, rfl, nofun, rfl⟩
  exact turns_written (GroupTables.removeGroupMember_writes found) (.remove grouped owned) writes
    (journals_step (getExistingGroup_found housed) ⟨fun store =>
      (GroupView.fromRecord store group, GroupMemberView.fromRecord member), rfl⟩)

theorem deleteGroup_turns (groupText : String) :
    Turns (GroupCommand.delete groupText).Asks (deleteGroup groupText) world := by
  apply turns_guard (guards_lift (validates_new _ _))
  intro name named
  apply turns_guard (guards_existingGroup name)
  intro group known
  apply turns_read
  have writes : Writes world.store _ (withoutGroup world.store name) _ :=
    ⟨.delete name (GroupView.fromRecord world.store group), trivial, directoryOf_delete name, rfl,
      nofun, List.map_map⟩
  exact turns_written (GroupTables.deleteGroup_writes known) (.delete named) writes
    ⟨fun _ => GroupView.fromRecord world.store group, rfl⟩

-- No group and no member has a name that no group has, when the directory is sound.
theorem name_free {store : Store} {name : GroupName}
    (sound : (directoryOf store).Sound MemberEntry.rank) (absent : store.groups.find? name = none) :
    Free store name := by
  constructor
  · intro row stored same
    have found := store.groups.find?_self row stored
    rw [show key row = name from same, absent] at found
    cases found
  · intro row stored same
    have found := store.groupMembers.find?_self row stored
    have held : (directoryOf store).members row.groupName row.agentAlias = some (memberEntry row) :=
      congrArg (Option.map memberEntry) found
    have housed := sound.housed _ _ _ held
    simp [directoryOf, same, absent] at housed

def renameNote (old new : GroupName) : Note :=
  ⟨"missive.group.rename", some new, none, renamePayload old new⟩

theorem writes_rename {old new : GroupName} (free : Free world.store new) (different : old ≠ new)
    (time : MilliTime) : Writes world.store (renameNote old new)
      (withGroupRenamed world.store old new time) (.rename old new) where
  notes := .rename old new
  allowed := trivial
  changed := directoryOf_rename free different
  agents := rfl
  registered := nofun
  journal := List.map_map

theorem renamed_found {old new : GroupName} (free : Free world.store new) (different : old ≠ new)
    {group : GroupRecord} (known : world.store.groups.find? old = some group) (time : MilliTime) :
    (withGroupRenamed world.store old new time).groups.find? new =
      some (renamedGroup old new time group) := by
  have back : ∀ row ∈ world.store.groups.rows,
      key (renamedGroup old new time row) = new ↔ key row = old := by
    intro row member
    have named := @former_iff old new row.groupName new (free.groups row member) different
    rw [← @renamedGroup_name old new time row, Directory.former, if_pos rfl,
      Option.some.injEq] at named
    exact named.trans eq_comm
  exact (find?_rekey (groups_apart free) old back).trans (congrArg _ known)

theorem renameGroup_turns (args : GroupRenameArgs)
    (sound : (directoryOf world.store).Sound MemberEntry.rank) :
    Turns (GroupCommand.rename args).Asks (renameGroup args) world := by
  apply turns_guard (guards_lift (validates_new _ _))
  intro old oldRead
  apply turns_guard (guards_lift (validates_new _ _))
  intro new newRead
  apply turns_guard (guards_lift (validates_names old new))
  intro _ passed
  apply turns_guard (guards_existingGroup old)
  intro group known
  apply turns_guard (guards_groupAbsent new)
  intro _ absent
  have different := differentNames_passed passed
  have free := name_free sound absent
  have renamed := renamed_found free different known (world.clock world.drawn).toMillis
  exact turns_written (GroupTables.renameGroup_writes known absent) (.rename oldRead newRead)
    (writes_rename free different _)
    (journals_step (getExistingGroup_found renamed)
      ⟨fun store => GroupView.fromRecord store _, rfl⟩)

-- Nothing refuses a renaming from a name that is there to another one that is free.
theorem renameGroup_journals {old new : GroupName}
    (sound : (directoryOf world.store).Sound MemberEntry.rank) (different : old ≠ new)
    {group : GroupRecord} (known : world.store.groups.find? old = some group)
    (absent : world.store.groups.find? new = none) :
    Journals (renameNote old new) (world.later.withStore (withGroupRenamed world.store old new
      (world.clock world.drawn).toMillis)) (renameGroup ⟨old.text, new.text⟩) world := by
  have free := name_free sound absent
  have renamed := renamed_found free different known (world.clock world.drawn).toMillis
  have passed : differentNames old new = .ok () := if_neg different
  have missing : ensureGroupAbsent new world = (.ok (), world) := by
    simp [ensureGroupAbsent, Collectives.getGroup, readStore, Effect.bind_run, absent]
  rw [renameGroup, Id.new_text, Id.new_text]
  apply journals_step rfl
  apply journals_step rfl
  apply journals_step (congrArg (fun made => Effect.lift made world) passed)
  apply journals_step (getExistingGroup_found known)
  apply journals_step missing
  apply journals_step (GroupTables.renameGroup_writes known absent)
  exact journals_step (getExistingGroup_found renamed)
    ⟨fun store => GroupView.fromRecord store _, rfl⟩

end Commands

end Missive.GroupDirectory
