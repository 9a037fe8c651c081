import Missive.GroupRuns
import Missive.OrderedLists

/-! Renaming a group. The renaming is a substitution: every row that referred to the group refers to
its new name, the members keep their order, and the renaming back restores the directory. -/
namespace Missive.GroupRename

open KeyedTable Missive.Core Schema Effects Repository Groups Memberships GroupDirectory GroupRuns
open TableRenaming OrderedLists
open Collectives (getGroup listGroupMembers)
open AgentRename (SameRows)
open GroupTables (renamedGroup renamedMember renamedReference withGroupRenamed)

variable {old new : GroupName} {world after : World}

/-! A renaming that returned. -/

theorem getExistingGroup_returned {name : GroupName} {record : GroupRecord}
    (ran : getExistingGroup name world = (.ok record, after)) :
    world.store.groups.find? name = some record ∧ after = world := by
  cases known : world.store.groups.find? name with
  | none =>
      simp only [getExistingGroup, getGroup, readStore, Effect.bind_run, known] at ran
      cases ran
  | some found =>
      rw [getExistingGroup_found known] at ran
      cases ran
      exact ⟨rfl, rfl⟩

theorem ensureGroupAbsent_returned {name : GroupName}
    (ran : ensureGroupAbsent name world = (.ok (), after)) :
    world.store.groups.find? name = none ∧ after = world := by
  cases known : world.store.groups.find? name with
  | none =>
      simp only [ensureGroupAbsent, getGroup, readStore, Effect.bind_run, known] at ran
      cases ran
      exact ⟨rfl, rfl⟩
  | some found =>
      simp only [ensureGroupAbsent, getGroup, readStore, Effect.bind_run, known] at ran
      cases ran

theorem newCliEvent_paid {eventType : String} {payload : JsonValue.Json} {event : EventInsert}
    (made : newCliEvent eventType payload world = (.ok event, after)) :
    event.payloadJson = JsonRedaction.outputRedactJson payload := by
  obtain ⟨_, _, _, built⟩ := Effect.bind_returned made
  cases built
  rfl

theorem appendGroupEvent_returned {eventType : String} {groupName : Option GroupName}
    {agentAlias : Option AgentAlias} {payload : JsonValue.Json}
    (ran : appendGroupEvent eventType groupName agentAlias payload world = (.ok (), after)) :
    ∃ event time, event.eventType = eventType ∧ event.groupName = groupName ∧
      event.payloadJson = JsonRedaction.outputRedactJson payload ∧
      after.store = withEvent world.store event time := by
  obtain ⟨event, middle, made, rest⟩ := Effect.bind_returned ran
  obtain ⟨_, last, appended, finished⟩ := Effect.bind_returned rest
  cases finished
  have typed := AgentRename.newCliEvent_returned made
  have paid := newCliEvent_paid made
  rw [← typed.2]
  exact ⟨{ event with groupName := groupName, agentAlias := agentAlias }, _, typed.1, rfl, paid,
    appendEvent_returned appended⟩

-- What a renaming that returned has written.
structure RenameRan (old new : GroupName) (world after : World) : Prop where
  different : old ≠ new
  known : (world.store.groups.find? old).isSome = true
  absent : world.store.groups.find? new = none
  result : ∃ event renamed appended, event.eventType = "missive.group.rename" ∧
    event.groupName = some new ∧ event.payloadJson = JsonRedaction.outputRedactJson
      (renamePayload old new) ∧
    after.store = withEvent (withGroupRenamed world.store old new renamed) event appended

theorem renameGroup_returned {view : GroupView}
    (ran : renameGroup ⟨old.text, new.text⟩ world = (.ok view, after)) :
    RenameRan old new world after := by
  simp only [renameGroup, Id.new_text] at ran
  obtain ⟨_, first, parsed⟩ := Effect.lift_bind_returned ran
  cases first
  obtain ⟨_, second, both⟩ := Effect.lift_bind_returned parsed
  cases second
  obtain ⟨_, checked, compared⟩ := Effect.lift_bind_returned both
  obtain ⟨record, _, looked, found⟩ := Effect.bind_returned compared
  obtain ⟨known, rfl⟩ := getExistingGroup_returned looked
  obtain ⟨_, _, sought, ready⟩ := Effect.bind_returned found
  obtain ⟨absent, rfl⟩ := ensureGroupAbsent_returned sought
  rw [Effect.bind_ok _ _ _ _ _ (GroupTables.renameGroup_writes known absent)] at ready
  obtain ⟨_, _, shown, rest⟩ := Effect.bind_returned ready
  obtain ⟨_, rfl⟩ := getExistingGroup_returned shown
  obtain ⟨_, _, appended, finished⟩ := Effect.bind_returned rest
  cases finished
  obtain ⟨event, time, typed, named, paid, stored⟩ := appendGroupEvent_returned appended
  refine ⟨differentNames_passed checked, by rw [known]; rfl, absent, event, _, time, typed, named,
    paid, stored⟩

/-! The rows after it. -/

def groupView (row : GroupRecord) : GroupRecord := { row with updatedAt := ⟨0⟩ }

def renameGroupRow (old new : GroupName) (row : GroupRecord) : GroupRecord :=
  { row with groupName := if row.groupName = old then new else row.groupName }

def repointJob (old new : GroupName) (row : GatewayJobRecord) : GatewayJobRecord :=
  { row with groupName := renamedReference old new row.groupName }

def repointEvent (old new : GroupName) (row : EventRecord) : EventRecord :=
  { row with groupName := renamedReference old new row.groupName }

-- The tables that refer to no group.
def elsewhere (store : Store) : Table AuthRefRecord × Table AgentRecord × Table ContextRecord ×
    Table TaskRecord × Table MessageRecord × Table ArtifactRecord × Table AdapterBindingRecord ×
    Table PushConfigRecord × Table GatewaySessionRecord :=
  (store.authRefs, store.agents, store.contexts, store.tasks, store.messages, store.artifacts,
    store.adapterBindings, store.pushConfigs, store.gatewaySessions)

def memberOrder (member : GroupMemberRecord) : Lex (RankName × AgentAlias) :=
  toLex (member.rankName, member.agentAlias)

/-- The store after is the store before with the name replaced wherever it stands, up to
`updated_at`, and with one rename event more. Lists of members keep their order. -/
structure Renamed (old new : GroupName) (before after : Store) : Prop where
  groups : SameRows groupView (renameGroupRow old new) before.groups after.groups
  groupMembers : SameRows id (renamedMember old new) before.groupMembers after.groupMembers
  gatewayJobs : after.gatewayJobs.rows = before.gatewayJobs.rows.map (repointJob old new)
  events : ∃ event : EventRecord, event.eventType = "missive.group.rename" ∧
    event.groupName = some new ∧
    after.events.rows = before.events.rows.map (repointEvent old new) ++ [event]
  elsewhere : elsewhere after = elsewhere before
  listed : ∀ name, listGroupMembers after name =
    ((Directory.former old new name).elim [] (listGroupMembers before)).map (renamedMember old new)

section Rows

variable {store : Store} {time : MilliTime}

theorem groupView_renamed (row : GroupRecord) :
    groupView (renamedGroup old new time row) = groupView (renameGroupRow old new row) := by
  by_cases own : row.groupName = old
  · simp [renamedGroup, renameGroupRow, groupView, own]
  · simp [renamedGroup, renameGroupRow, groupView, own]

theorem groups_substituted (free : Free store new) :
    SameRows groupView (renameGroupRow old new) store.groups
      (withGroupRenamed store old new time).groups := by
  have apart : Apart store.groups (renamedGroup old new time) := groups_apart free
  have moved := (rekey_perm apart).map groupView
  simpa only [SameRows, withGroupRenamed, List.map_map, Function.comp_def, groupView_renamed]
    using moved

theorem members_substituted (free : Free store new) :
    SameRows id (renamedMember old new) store.groupMembers
      (withGroupRenamed store old new time).groupMembers := by
  have apart : Apart store.groupMembers (renamedMember old new) := members_apart free
  simpa [SameRows, withGroupRenamed] using rekey_perm apart

theorem listGroupMembers_sorted (name : GroupName) :
    listGroupMembers store name = sortByKey memberOrder
      (store.groupMembers.rows.filter fun member => member.groupName = name) := rfl

theorem memberOrder_distinct (name : GroupName) :
    ((store.groupMembers.rows.filter fun member => member.groupName = name).map
      memberOrder).Nodup := by
  apply List.Nodup.map_on
  · intro first left last right same
    simp only [List.mem_filter, decide_eq_true_eq] at left right
    have agents : first.agentAlias = last.agentAlias :=
      (Prod.mk.inj (toLex.injective same)).2
    apply store.groupMembers.unique left.1 right.1
    exact memberKey_iff.mpr ⟨left.2.trans right.2.symm, agents⟩
  · exact store.groupMembers.nodup.filter _

theorem memberOrder_renamed (member : GroupMemberRecord) :
    memberOrder (renamedMember old new member) = memberOrder member := by
  by_cases own : member.groupName = old
  · simp [memberOrder, renamedMember, own]
  · simp [memberOrder, renamedMember, own]

theorem filter_renamed (free : Free store new) (different : old ≠ new) (name : GroupName) :
    ((store.groupMembers.rows.map (renamedMember old new)).filter fun member =>
        member.groupName = name) =
      ((Directory.former old new name).elim [] fun home =>
        store.groupMembers.rows.filter fun member => member.groupName = home).map
          (renamedMember old new) := by
  rw [List.filter_map]
  have chosen : store.groupMembers.rows.filter
      ((fun member : GroupMemberRecord => decide (member.groupName = name)) ∘
        renamedMember old new) =
      store.groupMembers.rows.filter fun member =>
        decide (Directory.former old new name = some member.groupName) := by
    apply List.filter_congr
    intro member stored
    rw [Function.comp_apply, renamedMember_name, decide_eq_decide]
    exact former_iff (free.members member stored) different
  rw [chosen]
  cases Directory.former old new name with
  | none => simp
  | some home => simp [eq_comm]

theorem listed_renamed (free : Free store new) (different : old ≠ new) (name : GroupName) :
    listGroupMembers (withGroupRenamed store old new time) name =
      ((Directory.former old new name).elim [] (listGroupMembers store)).map
        (renamedMember old new) := by
  have apart : Apart store.groupMembers (renamedMember old new) := members_apart free
  have moved : ((withGroupRenamed store old new time).groupMembers.rows.filter fun member =>
      member.groupName = name).Perm
      ((store.groupMembers.rows.map (renamedMember old new)).filter fun member =>
        member.groupName = name) :=
    (rekey_perm apart).filter _
  rw [filter_renamed free different] at moved
  rw [listGroupMembers_sorted]
  cases source : Directory.former old new name with
  | none =>
      rw [source] at moved
      rw [moved.eq_nil]
      simp [sortByKey]
  | some home =>
      rw [source] at moved
      have distinct := @memberOrder_distinct store home
      have keys : ((store.groupMembers.rows.filter fun member =>
          member.groupName = home).map (renamedMember old new)).map memberOrder =
          (store.groupMembers.rows.filter fun member => member.groupName = home).map
            memberOrder := by
        simp [memberOrder_renamed]
      rw [sortByKey_of_perm memberOrder _ (keys ▸ distinct) moved]
      exact sortByKey_map memberOrder _ distinct memberOrder_renamed

end Rows

/-- A renaming that returned is a substitution. -/
theorem renameRan_substitutes (kept : Kept world.store) (ran : RenameRan old new world after) :
    Renamed old new world.store after.store := by
  have free := name_free kept.sound ran.absent
  obtain ⟨event, renamed, appended, typed, named, -, stored⟩ := ran.result
  rw [stored]
  constructor
  · exact groups_substituted free
  · exact @members_substituted old new world.store renamed free
  · rfl
  · exact ⟨_, typed, named, withEvent_rows _ event appended⟩
  · rfl
  · exact @listed_renamed old new world.store renamed free ran.different

/-! The renaming back. -/

theorem renameRan_directory (kept : Kept world.store) (ran : RenameRan old new world after) :
    directoryOf after.store = (directoryOf world.store).apply (.rename old new) := by
  have free := name_free kept.sound ran.absent
  obtain ⟨event, renamed, appended, -, -, -, stored⟩ := ran.result
  have moved : directoryOf (withGroupRenamed world.store old new renamed) = _ :=
    directoryOf_rename free ran.different
  rw [stored, ← moved]
  rfl

theorem groups_find (store : Store) (name : GroupName) :
    (directoryOf store).groups name = (store.groups.find? name).map groupEntry := rfl

theorem renameRan_names (kept : Kept world.store) (ran : RenameRan old new world after) :
    (after.store.groups.find? new).isSome = true ∧ after.store.groups.find? old = none := by
  have moved := renameRan_directory kept ran
  have front := congrArg (fun directory => directory.groups new) moved
  have back := congrArg (fun directory => directory.groups old) moved
  simp only [groups_find, Directory.apply, Directory.former, if_true, if_neg ran.different,
    Option.bind_some, Option.bind_none, Option.map_eq_none_iff] at front back
  constructor
  · rw [← @Option.isSome_map _ _ groupEntry, front, Option.isSome_map]
    exact ran.known
  · exact back

theorem renamed_back (kept : Kept world.store) (ran : RenameRan old new world after)
    (still : Kept after.store) :
    directoryOf (renameGroup ⟨new.text, old.text⟩ after).2.store = directoryOf world.store := by
  have names := renameRan_names kept ran
  obtain ⟨group, known⟩ := Option.isSome_iff_exists.mp names.1
  obtain ⟨view, goes⟩ := renameGroup_journals still.sound ran.different.symm known names.2
  have free := name_free still.sound names.2
  have moved : directoryOf (withGroupRenamed after.store new old
      (after.clock after.drawn).toMillis) = (directoryOf after.store).apply (.rename new old) :=
    directoryOf_rename free ran.different.symm
  rw [goes, directoryOf_same (keeps_journaled _ view _)]
  refine moved.trans ?_
  rw [renameRan_directory kept ran]
  exact Directory.rename_back kept.sound ran.different (congrArg (Option.map groupEntry) ran.absent)

/-- In every run from an empty store, a group renaming that returns replaces the name wherever it
stands, and the renaming back restores the directory. -/
theorem group_rename_substitutes (fromStr : String → Option JsonValue.Json)
    (display : UInt64 → String) (blank last after : World) (empty : blank.store = Store.empty)
    (reached : Reached fromStr display blank last) (old new : GroupName) (view : GroupView)
    (ran : renameGroup ⟨old.text, new.text⟩ last = (.ok view, after)) :
    Renamed old new last.store after.store ∧
      directoryOf (renameGroup ⟨new.text, old.text⟩ after).2.store = directoryOf last.store := by
  have start : Kept blank.store := by
    rw [empty]
    exact kept_empty
  have kept := run_kept fromStr display start reached
  have still := turns_kept kept (renameGroup_turns ⟨old.text, new.text⟩ kept.sound)
  rw [ran] at still
  have done := renameGroup_returned ran
  exact ⟨renameRan_substitutes kept done, renamed_back kept done still⟩

def dayShift : GroupName := ⟨"day-shift", by decide⟩

def enrolledWorld : World := (scoutEnrolled.run noJson plainWeight staffedWorld).2

def dayNamed : Except MissiveError GroupView × World :=
  renameGroup ⟨nightShift.text, dayShift.text⟩ enrolledWorld

theorem night_shift_renamed :
    Renamed nightShift dayShift enrolledWorld.store dayNamed.2.store ∧
      directoryOf (renameGroup ⟨dayShift.text, nightShift.text⟩ dayNamed.2).2.store =
        directoryOf enrolledWorld.store := by
  have added : Step noJson plainWeight blankWorld (scoutAdded.run blankWorld).2 := .edit _ rfl
  have created : Step noJson plainWeight (scoutAdded.run blankWorld).2 staffedWorld :=
    .command nightCreated rfl
  have enrolled : Step noJson plainWeight staffedWorld enrolledWorld := .command scoutEnrolled rfl
  have reached : Reached noJson plainWeight blankWorld enrolledWorld :=
    ((Relation.ReflTransGen.single added).tail created).tail enrolled
  have returned : dayNamed.1.toBool = true := by decide +kernel
  cases ran : dayNamed with
  | mk outcome after =>
      cases outcome with
      | error error =>
          rw [ran] at returned
          cases returned
      | ok view =>
          exact group_rename_substitutes noJson plainWeight blankWorld enrolledWorld after rfl
            reached nightShift dayShift view ran

end Missive.GroupRename
