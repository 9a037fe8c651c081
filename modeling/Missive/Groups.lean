import Missive.CardCaching
import Missive.Contexts
import Missive.GroupTables
import Missive.RoutePlans

/-! The group commands: `create`, `add`, `remove`, `rename` and `delete`. Each checks its arguments
against the store, writes one row, and journals what it did. How `serde_json` reads a metadata value
and how an `f64` is printed come from outside. -/
namespace Missive.Groups

open JsonValue KeyedTable Missive.Core Schema Effects Repository RecordUpserts RoutePlans
open Contexts (splitKeyValue validateOptionalText)
open CardCaching (MilliTime.render optional)
open Collectives (getGroup listGroupMembers)
open JsonRedaction (trim)

structure GroupCreateArgs where
  group : String
  routingPolicy : String
  notes : Option String
  metadata : List String

-- The argument parser accepts a positive finite weight only.
structure GroupAddArgs where
  group : String
  agent : String
  rank : String
  tags : List String
  weight : UInt64
  routingMetadata : List String

structure GroupMemberSelectorArgs where
  group : String
  agent : String

structure GroupRenameArgs where
  group : String
  newGroup : String

/-! Views. -/

structure GroupMemberView where
  agent : String
  rank : String
  tags : List String
  weight : UInt64
  routingMetadata : Metadata
  createdAt : String

structure GroupView where
  name : String
  routingPolicy : String
  notes : Option String
  metadata : Metadata
  memberCount : Nat
  members : List GroupMemberView
  createdAt : String
  updatedAt : String

def GroupMemberView.fromRecord (record : GroupMemberRecord) : GroupMemberView where
  agent := record.agentAlias.text
  rank := record.rankName.text
  tags := record.tags
  weight := record.weight
  routingMetadata := record.routingMetadata
  createdAt := MilliTime.render record.createdAt

def GroupView.fromRecord (store : Store) (record : GroupRecord) : GroupView where
  name := record.groupName.text
  routingPolicy := record.routingPolicy
  notes := record.notes
  metadata := record.metadata
  memberCount := (listGroupMembers store record.groupName).length
  members := (listGroupMembers store record.groupName).map GroupMemberView.fromRecord
  createdAt := MilliTime.render record.createdAt
  updatedAt := MilliTime.render record.updatedAt

def GroupMemberView.toJson (view : GroupMemberView) : Json :=
  .object [("agent", .string view.agent), ("created_at", .string view.createdAt),
    ("rank", .string view.rank), ("routing_metadata", view.routingMetadata.toJson),
    ("tags", .array (view.tags.map .string)), ("weight", .number (.float view.weight))]

def GroupView.toJson (view : GroupView) : Json :=
  .object ([("created_at", .string view.createdAt), ("member_count", .nat view.memberCount),
      ("members", .array (view.members.map GroupMemberView.toJson)),
      ("metadata", view.metadata.toJson), ("name", .string view.name)] ++
    optional "notes" view.notes ++
    [("routing_policy", .string view.routingPolicy), ("updated_at", .string view.updatedAt)])

/-! Arguments. -/

def RoutingPolicyKind.asStr : RoutingPolicyKind → String
  | .direct => "direct"
  | .capabilityMatch => "capability-match"
  | .tagMatch => "tag-match"
  | .roundRobin => "round-robin"
  | .weighted => "weighted"
  | .broadcast => "broadcast"
  | .firstSuccess => "first-success"
  | .quorum => "quorum"
  | .fallback => "fallback"

def RoutingPolicyKind.fromName (value : String) : Option RoutingPolicyKind :=
  match String.ofList (trim value.toList) with
  | "direct" => some .direct
  | "capability-match" | "capability_match" => some .capabilityMatch
  | "tag-match" | "tag_match" => some .tagMatch
  | "round-robin" | "round_robin" => some .roundRobin
  | "weighted" => some .weighted
  | "broadcast" => some .broadcast
  | "first-success" | "first_success" => some .firstSuccess
  | "quorum" => some .quorum
  | "fallback" => some .fallback
  | _ => none

def parseRoutingPolicy (value : String) : Except MissiveError String :=
  match RoutingPolicyKind.fromName value with
  | some policy => .ok (RoutingPolicyKind.asStr policy)
  | none => .error ((MissiveError.validation
      s!"unknown routing policy {debug (String.ofList (trim value.toList))}").withHelp
      ("Use one of: direct, capability-match, tag-match, round-robin, weighted, broadcast, " ++
        "first-success, quorum, fallback."))

def parseNotes : Option String → Except MissiveError (Option String)
  | some value => do
      let notes ← validateOptionalText "--notes" value
        (8 * 1024) "Use concise non-secret group notes."
      .ok (some notes)
  | none => .ok none

def validateNamedCliIdentifier (kind value : String) : Except MissiveError Unit :=
  match shapeReason value 63 "lowercase ASCII letters, digits, '-', '_' or '.'"
    isNamedSeparator with
  | none => .ok ()
  | some reason => .error ((MissiveError.validation s!"invalid {kind}: {reason}").withHelp
      "Use lowercase ASCII letters or digits, with '-', '_' or '.' only in the middle.")

def parseTags (values : List String) : Except MissiveError (List String) := do
  values.forM (validateNamedCliIdentifier "member tag")
  .ok values

def addMetadata (fromStr : String → Option Json) (flag : String) (metadata : Metadata)
    (value : String) : Except MissiveError Metadata := do
  let (name, rawValue) ← splitKeyValue flag value
  let grown ← metadata.insert name ((fromStr rawValue).getD (.string rawValue))
  if (metadata.get name).isSome then
    .error ((MissiveError.validation s!"duplicate {flag} key {debug name}").withHelp
      "Pass each metadata key at most once.")
  else .ok grown

def parseMetadata (fromStr : String → Option Json) (flag : String) (values : List String) :
    Except MissiveError Metadata := values.foldlM (addMetadata fromStr flag) .new

/-! What the commands ask of the store. -/

def ensureGroupAbsent (name : GroupName) : Action Unit := do
  let found ← getGroup name
  match found with
  | some _ => Effect.raise ((MissiveError.validation
    s!"group {debug name.text} already exists").withHelp
      "Choose a different group name or delete/rename the existing group.")
  | none => pure ()

def getExistingGroup (name : GroupName) : Action GroupRecord := do
  let found ← getGroup name
  match found with
  | some record => pure record
  | none => Effect.raise ((MissiveError.validation
    s!"group {debug name.text} does not exist").withHelp
      "Run 'missive group list' to see locally known groups.")

def getExistingMember (groupName : GroupName)
    (agentAlias : AgentAlias) : Action GroupMemberRecord := do
  let found ← readStore fun store => (listGroupMembers store groupName).find? fun member =>
    member.agentAlias = agentAlias
  match found with
  | some member => pure member
  | none => Effect.raise ((MissiveError.validation
      s!"agent {debug agentAlias.text} is not a member of group {debug groupName.text}").withHelp
      "Run 'missive group show <group>' to inspect current membership.")

def ensureRankAvailable (groupName : GroupName) (rankName : RankName) (agentAlias : AgentAlias) :
    Action Unit := do
  let found ← readStore fun store => (listGroupMembers store groupName).find? fun member =>
    member.rankName = rankName && member.agentAlias ≠ agentAlias
  match found with
  | some member => Effect.raise ((MissiveError.validation
      (s!"rank {debug rankName.text} is already used in group {debug groupName.text} by agent " ++
        debug member.agentAlias.text)).withHelp
      "Choose a unique --rank value for each group member.")
  | none => pure ()

def appendGroupEvent (eventType : String) (groupName : Option GroupName)
    (agentAlias : Option AgentAlias) (payload : Json) : Action Unit := do
  let event ← newCliEvent eventType payload
  let _ ← appendEvent { event with groupName := groupName, agentAlias := agentAlias }
  pure ()

/-! The commands. -/

def createPayload (record : GroupRecord) : Json :=
  .object [("group", .string record.groupName.text), ("metadata", record.metadata.toJson),
    ("notes", Json.ofOption .string record.notes), ("routing_policy", .string record.routingPolicy)]

def createGroup (fromStr : String → Option Json) (args : GroupCreateArgs) : Action GroupView := do
  let groupName ← Effect.lift (Id.new .groupName args.group)
  ensureGroupAbsent groupName
  let routingPolicy ← Effect.lift (parseRoutingPolicy args.routingPolicy)
  let notes ← Effect.lift (parseNotes args.notes)
  let metadata ← Effect.lift (parseMetadata fromStr "--metadata" args.metadata)
  let record ← GroupTables.upsertGroup ⟨groupName, routingPolicy, notes, metadata⟩
  appendGroupEvent "missive.group.create" (some record.groupName) none (createPayload record)
  readStore fun store => GroupView.fromRecord store record

def addPayload (groupName : GroupName) (agentAlias : AgentAlias)
    (member : GroupMemberRecord) : Json :=
  .object [("agent", .string agentAlias.text), ("group", .string groupName.text),
    ("rank", .string member.rankName.text), ("routing_metadata", member.routingMetadata.toJson),
    ("tags", .array (member.tags.map .string)), ("weight", .number (.float member.weight))]

def addGroupMember (fromStr : String → Option Json) (display : UInt64 → String)
    (args : GroupAddArgs) : Action (GroupView × GroupMemberView) := do
  let groupName ← Effect.lift (Id.new .groupName args.group)
  let _ ← getExistingGroup groupName
  let agentAlias ← Effect.lift (Id.new .agentAlias args.agent)
  let _ ← getExistingAgent agentAlias
  let rankName ← Effect.lift (Id.new .rankName args.rank)
  ensureRankAvailable groupName rankName agentAlias
  let tags ← Effect.lift (parseTags args.tags)
  let routingMetadata ← Effect.lift (parseMetadata fromStr "--routing-metadata"
    args.routingMetadata)
  let member ← GroupTables.upsertGroupMember display
    ⟨groupName, agentAlias, rankName, tags, args.weight, routingMetadata⟩
  let record ← getExistingGroup groupName
  appendGroupEvent "missive.group.member.add" (some groupName) (some agentAlias)
    (addPayload groupName agentAlias member)
  readStore fun store => (GroupView.fromRecord store record, GroupMemberView.fromRecord member)

def removePayload (groupName : GroupName) (agentAlias : AgentAlias)
    (view : GroupMemberView) : Json :=
  .object [("agent", .string agentAlias.text), ("group", .string groupName.text),
    ("removed_member", view.toJson)]

def removeGroupMember (args : GroupMemberSelectorArgs) : Action (GroupView × GroupMemberView) := do
  let groupName ← Effect.lift (Id.new .groupName args.group)
  let _ ← getExistingGroup groupName
  let agentAlias ← Effect.lift (Id.new .agentAlias args.agent)
  let member ← getExistingMember groupName agentAlias
  let view := GroupMemberView.fromRecord member
  let removed ← GroupTables.removeGroupMember groupName agentAlias
  if !removed then
    Effect.raise (MissiveError.storage (s!"group member {groupName.text}/{agentAlias.text} " ++
      "disappeared before it could be removed"))
  else do
    let record ← getExistingGroup groupName
    appendGroupEvent "missive.group.member.remove" (some groupName) (some agentAlias)
      (removePayload groupName agentAlias view)
    readStore fun store => (GroupView.fromRecord store record, view)

def differentNames (old new : GroupName) : Except MissiveError Unit :=
  if old = new then
    .error ((MissiveError.validation "group rename requires a different new group name").withHelp
      "Choose a new group name that does not match the current name.")
  else .ok ()

def renamePayload (old new : GroupName) : Json :=
  .object [("group", .string new.text), ("previous_name", .string old.text)]

def renameGroup (args : GroupRenameArgs) : Action GroupView := do
  let old ← Effect.lift (Id.new .groupName args.group)
  let new ← Effect.lift (Id.new .groupName args.newGroup)
  Effect.lift (differentNames old new)
  let _ ← getExistingGroup old
  ensureGroupAbsent new
  let renamed ← GroupTables.renameGroup old new
  if !renamed then
    Effect.raise (MissiveError.storage
      s!"group {debug old.text} disappeared before it could be renamed")
  else do
    let record ← getExistingGroup new
    appendGroupEvent "missive.group.rename" (some new) none (renamePayload old new)
    readStore fun store => GroupView.fromRecord store record

def deletePayload (name : GroupName) (view : GroupView) : Json :=
  .object [("deleted_group", view.toJson), ("group", .string name.text)]

def deleteGroup (groupText : String) : Action GroupView := do
  let name ← Effect.lift (Id.new .groupName groupText)
  let record ← getExistingGroup name
  let view ← readStore fun store => GroupView.fromRecord store record
  let deleted ← GroupTables.deleteGroup name
  if !deleted then
    Effect.raise (MissiveError.storage
      s!"group {debug name.text} disappeared before it could be deleted")
  else do
    appendGroupEvent "missive.group.delete" none none (deletePayload name view)
    pure view

end Missive.Groups
