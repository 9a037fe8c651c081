import Missive.GroupDirectory

/-! Runs of group commands, agent edits and everything else. The directory stays sound and its
members stay registered, so a group command does what it was asked or is refused by its own
checks. -/
namespace Missive.GroupRuns

open KeyedTable Missive.Core Schema Effects Repository RecordUpserts Groups Memberships
open GroupDirectory Frames
open AgentRename (ensureAgentAbsent replaceAgent renameAgent appendAgentEvent)
open CardCaching (Edit addAgent removeAgent refreshAgent)
open ConfigSeeding (syncConfigAgent)
open GroupTables (memberKey)

variable {Result Other : Type}

/-! Work that adds no group and no member. -/

/-- The groups stay, members may leave, and whoever stays a member stays registered. -/
structure Sheds (before after : World) : Prop where
  groups : after.store.groups = before.store.groups
  members : ∀ id row, after.store.groupMembers.find? id = some row →
    before.store.groupMembers.find? id = some row
  agents : ∀ id row, after.store.groupMembers.find? id = some row →
    before.store.hasAgent (some row.agentAlias) = true →
    after.store.hasAgent (some row.agentAlias) = true

theorem sheds_refl (world : World) : Sheds world world :=
  ⟨rfl, fun _ _ found => found, fun _ _ _ known => known⟩

theorem sheds_trans (first middle last : World) (before : Sheds first middle)
    (after : Sheds middle last) : Sheds first last where
  groups := after.groups.trans before.groups
  members id row found := before.members id row (after.members id row found)
  agents id row found known :=
    after.agents id row found (before.agents id row (after.members id row found) known)

-- The tables that group commands read.
def groupPart (store : Store) : Table GroupRecord × Table GroupMemberRecord × Table AgentRecord :=
  (store.groups, store.groupMembers, store.agents)

theorem sheds_same {before after : World} (same : Same groupPart before after) :
    Sheds before after := by
  simp only [Same, groupPart, Prod.mk.injEq] at same
  constructor
  · exact same.1
  · intro id row found
    rwa [← same.2.1]
  · intro id row _ known
    rwa [Store.hasAgent, same.2.2]

theorem sheds_keeps {action : Action Result} (keeps : Keeps groupPart action) :
    Effect.Moves Sheds action := fun world => sheds_same (keeps world)

theorem sheds_bind {first : Action Result} {next : Result → Action Other}
    (head : Effect.Moves Sheds first) (tail : ∀ result, Effect.Moves Sheds (next result)) :
    Effect.Moves Sheds (first >>= next) := Effect.moves_bind sheds_trans head tail

theorem sheds_upsertAgent (input : AgentUpsert) : Effect.Moves Sheds (upsertAgent input) := by
  intro world
  rcases upsertRow_cases agentsTable (validateNonEmpty "agent base_url" input.baseUrl)
    "upserting agent" "agent" input.aliasName.text input.aliasName
    (fun store => refuseUnless (store.hasAuthRef input.authRefName) foreignKeyFailed) input.toRecord
    (fun _ _ => rfl) world with ⟨error, after, failed, same⟩ | ⟨_, _, wrote⟩
  · rw [upsertAgent, failed]
    exact sheds_same (congrArg groupPart same)
  · rw [upsertAgent, wrote]
    refine ⟨rfl, fun _ _ found => found, fun id row _ known => ?_⟩
    change ((world.store.agents.put _).find? row.agentAlias).isSome = true
    rw [Table.find?_put]
    split
    · rfl
    · exact known

-- The members of a deleted agent leave with it.
theorem sheds_withoutAgent (world : World) (gone : AgentAlias) :
    Sheds world (world.withStore (withoutAgent world.store gone)) where
  groups := rfl
  members id row left := by
    simp only [World.withStore, withoutAgent, Table.find?_filter, Option.filter_eq_some_iff] at left
    exact left.1
  agents id row left known := by
    simp only [World.withStore, withoutAgent, Table.find?_filter, Option.filter_eq_some_iff] at left
    have other : row.agentAlias ≠ gone := by simpa using left.2
    simp only [Store.hasAgent, Option.all_some, World.withStore, withoutAgent, Table.find?_filter]
      at known ⊢
    cases found : world.store.agents.find? row.agentAlias with
    | none => simp [found] at known
    | some agent =>
        have named : agent.aliasName = row.agentAlias := world.store.agents.find?_key found
        simp [Option.filter, named, other]

theorem sheds_deleteAgent (gone : AgentAlias) : Effect.Moves Sheds (deleteAgent gone) := by
  refine sheds_bind (sheds_keeps (keeps_readStore _)) fun found => ?_
  refine sheds_bind ?_ fun _ => sheds_keeps (keeps_pure _)
  intro world
  unfold execute
  split
  · exact sheds_refl world
  · cases found with
    | none => exact sheds_refl world
    | some record => exact sheds_withoutAgent world gone

theorem sheds_transaction {body : Action Result} (inner : Effect.Moves Sheds body) :
    Effect.Moves Sheds (transaction body) := by
  have undone (before after : World) (_ : Sheds before after) :
      Sheds before (after.withStore before.store) := sheds_same rfl
  exact Effect.moves_transaction undone inner

theorem sheds_discard {action : Action Result} (inner : Effect.Moves Sheds action) :
    Effect.Moves Sheds (CardCaching.discard action) :=
  sheds_bind inner fun _ => sheds_keeps (keeps_pure ())

theorem sheds_replaceAgent (record : AgentRecord) (old new : AgentAlias) :
    Effect.Moves Sheds (replaceAgent record old new) := by
  refine sheds_bind (sheds_upsertAgent _) fun written => ?_
  refine sheds_bind (sheds_deleteAgent old) fun deleted => ?_
  cases deleted with
  | true => exact sheds_keeps (keeps_pure written)
  | false => exact sheds_keeps (keeps_raise _)

theorem sheds_appendAgentEvent (eventType : String) (subject : Option AgentAlias)
    (payload : JsonValue.Json) :
    Effect.Moves Sheds (appendAgentEvent eventType subject payload) := by
  apply sheds_keeps
  refine keeps_bind (keeps_newCliEvent eventType payload) fun event => ?_
  exact keeps_bind (keeps_appendEvent (fun _ _ _ => rfl) _) fun _ => keeps_pure ()

theorem keeps_agentAbsent {Part : Type} (part : Store → Part) (name : AgentAlias) :
    Keeps part (ensureAgentAbsent name) := by
  refine keeps_bind (keeps_readStore _) fun found => ?_
  cases found with
  | none => exact keeps_pure ()
  | some record => exact keeps_raise _

theorem keeps_existingAgent {Part : Type} (part : Store → Part) (name : AgentAlias) :
    Keeps part (getExistingAgent name) := by
  refine keeps_bind (keeps_readStore _) fun found => ?_
  cases found with
  | none => exact keeps_raise _
  | some record => exact keeps_pure record

theorem sheds_ensureAgentAbsent (name : AgentAlias) :
    Effect.Moves Sheds (ensureAgentAbsent name) := sheds_keeps (keeps_agentAbsent _ name)

theorem sheds_getExistingAgent (name : AgentAlias) :
    Effect.Moves Sheds (getExistingAgent name) := sheds_keeps (keeps_existingAgent _ name)

theorem sheds_lift (made : Except MissiveError Result) : Effect.Moves Sheds (Effect.lift made) :=
  sheds_keeps (keeps_lift made)

theorem sheds_renameAgent (aliasText newAliasText : String) :
    Effect.Moves Sheds (renameAgent aliasText newAliasText) := by
  refine sheds_bind (sheds_lift _) fun old => ?_
  refine sheds_bind (sheds_lift _) fun new => ?_
  refine sheds_bind (sheds_lift _) fun _ => ?_
  refine sheds_bind (sheds_getExistingAgent _) fun record => ?_
  refine sheds_bind (sheds_lift _) fun _ => ?_
  refine sheds_bind (sheds_ensureAgentAbsent _) fun _ => ?_
  refine sheds_bind (sheds_transaction (sheds_replaceAgent _ _ _)) fun renamed => ?_
  exact sheds_bind (sheds_appendAgentEvent _ _ _) fun _ => sheds_keeps (keeps_pure _)

theorem sheds_removeAgent (aliasText : String) : Effect.Moves Sheds (removeAgent aliasText) := by
  refine sheds_bind (sheds_lift _) fun gone => ?_
  refine sheds_bind (sheds_getExistingAgent _) fun record => ?_
  refine sheds_bind (sheds_lift _) fun _ => ?_
  refine sheds_bind (sheds_deleteAgent gone) fun deleted => ?_
  cases deleted with
  | true => exact sheds_appendAgentEvent _ _ _
  | false => exact sheds_keeps (keeps_raise _)

theorem sheds_edit (edit : Edit) : Effect.Moves Sheds edit.run := by
  cases edit with
  | seedAuthRef name authRef =>
      exact sheds_discard (sheds_keeps (keeps_upsertRow (fun _ _ => rfl) fun _ _ => rfl))
  | seedAgent aliasText agent =>
      refine sheds_bind (sheds_lift _) fun seeded => ?_
      refine sheds_bind (sheds_keeps (keeps_readStore _)) fun existing => ?_
      refine sheds_bind (sheds_lift _) fun input => ?_
      exact sheds_discard (sheds_upsertAgent input)
  | add input =>
      refine sheds_discard (sheds_bind (sheds_ensureAgentAbsent _) fun _ => ?_)
      refine sheds_bind (sheds_upsertAgent input) fun record => ?_
      exact sheds_bind (sheds_appendAgentEvent _ _ _) fun _ => sheds_keeps (keeps_pure record)
  | remove aliasText => exact sheds_removeAgent aliasText
  | rename aliasText newAliasText => exact sheds_discard (sheds_renameAgent aliasText newAliasText)
  | refresh aliasText rawCard validators fetchedAt =>
      refine sheds_discard (sheds_bind (sheds_lift _) fun name => ?_)
      exact sheds_bind (sheds_getExistingAgent _) fun record => sheds_upsertAgent _

/-! The invariant. -/

/-- The directory is sound and all its members are registered agents. -/
structure Kept (store : Store) : Prop where
  sound : (directoryOf store).Sound MemberEntry.rank
  registered : ∀ group agent member, (directoryOf store).members group agent = some member →
    store.hasAgent (some agent) = true

theorem kept_empty : Kept Store.empty where
  sound := Directory.sound_empty MemberEntry.rank
  registered _ _ _ held := by cases held

theorem members_fewer {before after : World} (sheds : Sheds before after) {group : GroupName}
    {agent : AgentAlias} {member : MemberEntry}
    (held : (directoryOf after.store).members group agent = some member) :
    (directoryOf before.store).members group agent = some member := by
  simp only [directoryOf, Option.map_eq_some_iff] at held ⊢
  obtain ⟨row, found, shown⟩ := held
  exact ⟨row, sheds.members _ row found, shown⟩

theorem kept_sheds {before after : World} (kept : Kept before.store) (sheds : Sheds before after) :
    Kept after.store where
  sound := by
    apply Directory.sound_fewer kept.sound (directoryOf after.store)
    · simp only [directoryOf, sheds.groups]
    · exact fun group agent member => members_fewer sheds
  registered group agent member held := by
    have known := kept.registered group agent member (members_fewer sheds held)
    simp only [directoryOf, Option.map_eq_some_iff] at held
    obtain ⟨row, found, -⟩ := held
    have named := memberKey_found found
    rw [← named.2] at known ⊢
    exact sheds.agents _ row found known

theorem kept_writes {before written : Store} {note : Note} {change : GroupChange}
    (kept : Kept before) (writes : Writes before note written change) : Kept written where
  sound := by
    rw [writes.changed]
    exact Directory.sound_apply kept.sound change writes.allowed
  registered group agent member held := by
    rw [writes.changed] at held
    rw [Store.hasAgent, writes.agents]
    rcases Directory.members_apply held with ⟨home, stayed⟩ | enrolled
    · exact kept.registered home agent member stayed
    · exact writes.registered group agent member enrolled

/-! A command. -/

theorem keeps_append (note : Note) : Keeps groupPart note.append := by
  refine keeps_bind (keeps_newCliEvent _ _) fun event => ?_
  exact keeps_bind (keeps_appendEvent (fun _ _ _ => rfl) _) fun _ => keeps_pure ()

theorem keeps_journaled (note : Note) (view : Store → Result) :
    Keeps groupPart (note.append >>= fun _ => readStore view) :=
  keeps_bind (keeps_append note) fun _ => keeps_readStore view

theorem directoryOf_same {before after : World} (same : Same groupPart before after) :
    directoryOf after.store = directoryOf before.store := by
  simp only [Same, groupPart, Prod.mk.injEq] at same
  simp only [directoryOf, same.1, same.2.1]

/-- What a command does to the directory. -/
def Obeys (asks : GroupChange → Prop) (action : Action Result) (world : World) : Prop :=
  Refuses action world ∨ ∃ change, asks change ∧
    (directoryOf world.store).Allows MemberEntry.rank change ∧
    directoryOf (action world).2.store = (directoryOf world.store).apply change

variable {asks : GroupChange → Prop} {action : Action Result} {world : World}

theorem turns_obeys (turns : Turns asks action world) : Obeys asks action world := by
  rcases turns with refused | ⟨note, written, change, asked, writes, view, goes⟩
  · exact Or.inl refused
  · have journaled := directoryOf_same (keeps_journaled note view written)
    refine Or.inr ⟨change, asked, writes.allowed, ?_⟩
    rw [goes, journaled, writes.changed]

theorem turns_kept (kept : Kept world.store) (turns : Turns asks action world) :
    Kept (action world).2.store := by
  rcases turns with ⟨error, refused, -⟩ | ⟨note, written, change, -, writes, view, goes⟩
  · rw [refused]
    exact kept
  · rw [goes]
    exact kept_sheds (kept_writes kept writes) (sheds_same (keeps_journaled note view written))

theorem turns_discard (turns : Turns asks action world) :
    Turns asks (CardCaching.discard action) world := by
  rcases turns with ⟨error, refused, invalid⟩ | ⟨note, written, change, asked, writes, view, goes⟩
  · exact Or.inl ⟨error, Effect.bind_error _ _ _ _ _ refused, invalid⟩
  · refine Or.inr ⟨note, written, change, asked, writes, fun _ => (), ?_⟩
    rw [CardCaching.discard, Effect.bind_run, goes, Effect.bind_run, Effect.bind_run]
    cases appended : note.append written with
    | mk outcome after =>
        cases outcome with
        | error error => rfl
        | ok _ => rfl

variable (fromStr : String → Option JsonValue.Json) (display : UInt64 → String)

theorem command_turns (sound : (directoryOf world.store).Sound MemberEntry.rank)
    (command : GroupCommand) :
    Turns command.Asks (command.run fromStr display) world := by
  cases command with
  | create args => exact turns_discard (createGroup_turns fromStr args)
  | add args => exact turns_discard (addGroupMember_turns fromStr display args)
  | remove args => exact turns_discard (removeGroupMember_turns args)
  | rename args => exact turns_discard (renameGroup_turns args sound)
  | delete group => exact turns_discard (deleteGroup_turns group)

/-! Runs. -/

/-- A group command, an agent edit, or work that leaves the groups, their members and the registered
agents alone. -/
inductive Step (before after : World) : Prop where
  | command (command : GroupCommand) (ran : (command.run fromStr display before).2 = after)
  | edit (edit : Edit) (ran : (edit.run before).2 = after)
  | other (groups : after.store.groups = before.store.groups)
      (members : after.store.groupMembers = before.store.groupMembers)
      (agents : ∀ name, before.store.hasAgent name = true → after.store.hasAgent name = true)

abbrev Reached : World → World → Prop := Relation.ReflTransGen (Step fromStr display)

theorem step_kept {before after : World} (kept : Kept before.store)
    (step : Step fromStr display before after) : Kept after.store := by
  cases step with
  | command command ran =>
      rw [← ran]
      exact turns_kept kept (command_turns fromStr display kept.sound command)
  | edit edit ran =>
      rw [← ran]
      exact kept_sheds kept (sheds_edit edit before)
  | other groups members agents =>
      refine kept_sheds kept ⟨groups, fun id row found => ?_, fun _ row _ => agents _⟩
      rwa [← members]

theorem run_kept {before after : World} (kept : Kept before.store)
    (reached : Reached fromStr display before after) : Kept after.store := by
  induction reached with
  | refl => exact kept
  | tail _ step ih => exact step_kept fromStr display ih step

def noJson (_ : String) : Option JsonValue.Json := none

def plainWeight (_ : UInt64) : String := "1.0"

def scoutAlias : AgentAlias := ⟨"scout", by decide⟩
def nightShift : GroupName := ⟨"night-shift", by decide⟩

def blankWorld : World := ⟨Store.empty, fun _ => ⟨0⟩, fun _ => "message", 0⟩

def scoutAdded : Edit := .add (AgentUpsert.new scoutAlias "http://127.0.0.1")
def nightCreated : GroupCommand := .create ⟨nightShift.text, "round-robin", some "late", []⟩
def scoutEnrolled : GroupCommand :=
  .add ⟨nightShift.text, scoutAlias.text, "first", ["reviewer"], 0x3ff0000000000000, []⟩

def staffedWorld : World := (nightCreated.run noJson plainWeight (scoutAdded.run blankWorld).2).2

end Missive.GroupRuns
