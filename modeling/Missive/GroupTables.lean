import Missive.Collectives
import Missive.RecordUpserts
import Missive.TableRenaming

/-! The repository functions over the tables `groups` and `group_members`. A renaming and a
deletion of a group take the actions of the foreign keys that refer to it; a member is refused
when another agent of the group holds its rank. How an `f64` is printed comes from outside. -/
namespace Missive.GroupTables

open JsonValue KeyedTable Missive.Core Schema Effects Repository RecordUpserts TableRenaming

def groupsTable : StoreTable GroupRecord :=
  ⟨Store.groups, fun store table => { store with groups := table }, fun _ _ => rfl⟩

def groupMembersTable : StoreTable GroupMemberRecord :=
  ⟨Store.groupMembers, fun store table => { store with groupMembers := table }, fun _ _ => rfl⟩

def GroupUpsert.new (groupName : GroupName) : GroupUpsert := ⟨groupName, "direct", none, .new⟩

def GroupUpsert.toRecord (input : GroupUpsert) (time : MilliTime) (existing : Option GroupRecord) :
    GroupRecord where
  groupName := input.groupName
  routingPolicy := input.routingPolicy
  notes := input.notes
  metadata := input.metadata
  createdAt := existing.elim time GroupRecord.createdAt
  updatedAt := time

def upsertGroup (input : GroupUpsert) : Action GroupRecord :=
  upsertRow groupsTable input.check "upserting group" "group" input.groupName.text input.groupName
    (fun _ => none) (GroupUpsert.toRecord input)

def renamedGroup (old new : GroupName) (time : MilliTime) (row : GroupRecord) : GroupRecord :=
  if row.groupName = old then { row with groupName := new, updatedAt := time } else row

def renamedMember (old new : GroupName) (row : GroupMemberRecord) : GroupMemberRecord :=
  if row.groupName = old then { row with groupName := new } else row

-- A reference of another table to a group.
def renamedReference (old new : GroupName) (reference : Option GroupName) : Option GroupName :=
  if reference = some old then some new else reference

/-- The foreign-key actions of a renamed group, table by table. -/
def withGroupRenamed (store : Store) (old new : GroupName) (time : MilliTime) : Store :=
  { store with
    groups := rekey store.groups (renamedGroup old new time)
    groupMembers := rekey store.groupMembers (renamedMember old new)
    gatewayJobs := store.gatewayJobs.mapRows
      (fun row => { row with groupName := renamedReference old new row.groupName }) fun _ => rfl
    events := store.events.mapRows
      (fun row => { row with groupName := renamedReference old new row.groupName }) fun _ => rfl
    unused := by
      intro row member
      obtain ⟨stored, known, rfl⟩ := List.mem_map.mp member
      exact store.unused stored known }

def renameGroup (old new : GroupName) : Action Bool := do
  let found ← Collectives.getGroup old
  let time ← sqlNow
  execute "renaming group"
    (fun store => refuseUnless (found.isNone || (store.groups.find? new).isNone)
      "UNIQUE constraint failed: groups.group_name")
    fun store => if found.isSome then withGroupRenamed store old new time else store
  pure found.isSome

/-- The foreign-key actions of a deleted group, table by table. -/
def withoutGroup (store : Store) (name : GroupName) : Store :=
  { store with
    groups := store.groups.filter fun row => row.groupName ≠ name
    groupMembers := store.groupMembers.filter fun row => row.groupName ≠ name
    gatewayJobs := store.gatewayJobs.mapRows
      (fun row =>
        { row with groupName := if row.groupName = some name then none else row.groupName })
      fun _ => rfl
    events := store.events.mapRows
      (fun row =>
        { row with groupName := if row.groupName = some name then none else row.groupName })
      fun _ => rfl
    unused := by
      intro row member
      obtain ⟨stored, known, rfl⟩ := List.mem_map.mp member
      exact store.unused stored known }

def deleteGroup (name : GroupName) : Action Bool := do
  let found ← Collectives.getGroup name
  execute "deleting group" (fun _ => none) fun store => withoutGroup store name
  pure found.isSome

/-! Members. -/

def memberKey (groupName : GroupName) (agentAlias : AgentAlias) : Lex (GroupName × AgentAlias) :=
  toLex (groupName, agentAlias)

def GroupMemberUpsert.toRecord (input : GroupMemberUpsert) (time : MilliTime)
    (existing : Option GroupMemberRecord) : GroupMemberRecord where
  groupName := input.groupName
  agentAlias := input.agentAlias
  rankName := input.rankName
  tags := input.tags
  weight := input.weight
  routingMetadata := input.routingMetadata
  createdAt := existing.elim time GroupMemberRecord.createdAt

-- `UNIQUE (group_name, rank_name)`
def rankTaken (store : Store) (groupName : GroupName) (rankName : RankName)
    (agentAlias : AgentAlias) : Bool :=
  store.groupMembers.rows.any fun row =>
    row.groupName = groupName && row.rankName = rankName && row.agentAlias ≠ agentAlias

def GroupMemberUpsert.refused (input : GroupMemberUpsert) (store : Store) : Option String :=
  if rankTaken store input.groupName input.rankName input.agentAlias then
    some "UNIQUE constraint failed: group_members.group_name, group_members.rank_name"
  else refuseUnless
    (store.hasGroup (some input.groupName) && store.hasAgent (some input.agentAlias))
    foreignKeyFailed

def upsertGroupMember (display : UInt64 → String) (input : GroupMemberUpsert) :
    Action GroupMemberRecord :=
  upsertRow groupMembersTable (validatePositiveWeight display input.weight) "upserting group member"
    "group member" s!"{input.groupName.text}/{input.agentAlias.text}"
    (memberKey input.groupName input.agentAlias) (GroupMemberUpsert.refused input)
    (GroupMemberUpsert.toRecord input)

def withoutMember (store : Store) (groupName : GroupName) (agentAlias : AgentAlias) : Store :=
  { store with
    groupMembers := store.groupMembers.filter fun row =>
      ¬(row.groupName = groupName ∧ row.agentAlias = agentAlias) }

def removeGroupMember (groupName : GroupName) (agentAlias : AgentAlias) : Action Bool := do
  let found ← readStore fun store => store.groupMembers.find? (memberKey groupName agentAlias)
  execute "removing group member" (fun _ => none) fun store =>
    withoutMember store groupName agentAlias
  pure found.isSome

/-! What the statements write when nothing refuses them. -/

section Written

variable {world : World}

theorem upsertGroup_writes {input : GroupUpsert} (checked : input.check = .ok ()) :
    ∃ record : GroupRecord, record.groupName = input.groupName ∧
      upsertGroup input world = (.ok record, world.later.withStore
        { world.store with groups := world.store.groups.put record }) :=
  ⟨_, rfl, upsertRow_accepted groupsTable _ _ _ _ input.groupName _ (GroupUpsert.toRecord input)
    (fun _ _ => rfl) checked world rfl⟩

theorem upsertGroupMember_writes {display : UInt64 → String} {input : GroupMemberUpsert}
    (weighed : validatePositiveWeight display input.weight = .ok ())
    (accepted : GroupMemberUpsert.refused input world.store = none) :
    ∃ record : GroupMemberRecord, record.groupName = input.groupName ∧
      record.agentAlias = input.agentAlias ∧ record.rankName = input.rankName ∧
      upsertGroupMember display input world = (.ok record, world.later.withStore
        { world.store with groupMembers := world.store.groupMembers.put record }) :=
  ⟨_, rfl, rfl, rfl, upsertRow_accepted groupMembersTable _ _ _ _
    (memberKey input.groupName input.agentAlias) _ (GroupMemberUpsert.toRecord input)
    (fun _ _ => rfl) weighed world accepted⟩

theorem removeGroupMember_writes {groupName : GroupName} {agentAlias : AgentAlias}
    {member : GroupMemberRecord}
    (found : world.store.groupMembers.find? (memberKey groupName agentAlias) = some member) :
    removeGroupMember groupName agentAlias world =
      (.ok true, world.withStore (withoutMember world.store groupName agentAlias)) := by
  simp only [removeGroupMember, readStore, Effect.bind_run, found, execute]
  rfl

theorem deleteGroup_writes {name : GroupName} {group : GroupRecord}
    (known : world.store.groups.find? name = some group) :
    deleteGroup name world = (.ok true, world.withStore (withoutGroup world.store name)) := by
  simp only [deleteGroup, Collectives.getGroup, readStore, Effect.bind_run, known, execute]
  rfl

theorem renameGroup_writes {old new : GroupName} {group : GroupRecord}
    (known : world.store.groups.find? old = some group)
    (absent : world.store.groups.find? new = none) :
    renameGroup old new world = (.ok true, world.later.withStore
      (withGroupRenamed world.store old new (world.clock world.drawn).toMillis)) := by
  have drawn : sqlNow world = (.ok (world.clock world.drawn).toMillis, world.later) := rfl
  simp only [renameGroup, Collectives.getGroup, readStore, Effect.bind_run, known, drawn, execute,
    World.later_store, absent, refuseUnless]
  rfl

end Written

end Missive.GroupTables
