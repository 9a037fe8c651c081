import Missive.GroupRename
import Missive.StoreStatements

/-! The constraints of the database over whole runs of its statements: every reference names a row,
and the unique columns hold no value twice, whatever is written, deleted, renamed or rolled back. -/
namespace Missive.StoreIntegrity

open JsonValue KeyedTable Missive.Core Schema Effects Repository RecordUpserts TableConstraints
open StoreStatements GroupTables TableRenaming
open ConfigSeeding (AuthRefUpsert authRefsTable upsertAuthRef)
open PushConfigs (pushConfigsTable upsertPushConfig deletePushConfig)

/-! What a row refers to. -/

structure References where
  authRefName : Option String
  agentAlias : Option AgentAlias
  contextId : Option ContextId
  parentContextId : Option ContextId
  taskId : Option TaskId
  groupName : Option GroupName
  gatewayJobId : Option GatewayJobId
  adapterBindingId : Option AdapterBindingId

def nothing : References := ⟨none, none, none, none, none, none, none, none⟩

structure Resolved (store : Store) (refs : References) : Prop where
  authRef : store.hasAuthRef refs.authRefName = true
  agent : store.hasAgent refs.agentAlias = true
  context : store.hasContext refs.contextId = true
  parent : store.hasContext refs.parentContextId = true
  task : store.hasTask refs.taskId = true
  group : store.hasGroup refs.groupName = true
  gatewayJob : store.hasGatewayJob refs.gatewayJobId = true
  adapterBinding : store.hasAdapterBinding refs.adapterBindingId = true

def agentRefs (row : AgentRecord) : References := { nothing with authRefName := row.authRefName }

def contextRefs (row : ContextRecord) : References :=
  { nothing with agentAlias := row.agentAlias, parentContextId := row.parentContextId }

def taskRefs (row : TaskRecord) : References :=
  { nothing with agentAlias := some row.agentAlias, contextId := row.contextId }

def messageRefs (row : MessageRecord) : References :=
  { nothing with agentAlias := row.agentAlias, contextId := row.contextId, taskId := row.taskId }

def artifactRefs (row : ArtifactRecord) : References :=
  { nothing with contextId := row.contextId, taskId := some row.taskId }

def memberRefs (row : GroupMemberRecord) : References :=
  { nothing with agentAlias := some row.agentAlias, groupName := some row.groupName }

def jobRefs (row : GatewayJobRecord) : References :=
  { nothing with
    agentAlias := row.agentAlias
    contextId := row.contextId
    taskId := row.taskId
    groupName := row.groupName
    adapterBindingId := row.adapterBindingId }

def pushConfigRefs (row : PushConfigRecord) : References :=
  { nothing with
    authRefName := row.authRefName
    agentAlias := some row.agentAlias
    taskId := row.taskId }

def eventRefs (row : EventRecord) : References where
  authRefName := none
  agentAlias := row.agentAlias
  contextId := row.contextId
  parentContextId := none
  taskId := row.taskId
  groupName := row.groupName
  gatewayJobId := row.gatewayJobId
  adapterBindingId := row.adapterBindingId

def sessionRefs (row : GatewaySessionRecord) : References :=
  { nothing with agentAlias := some row.agentAlias, contextId := some row.contextId }

-- The tables with references.
inductive Referring where
  | agents | contexts | tasks | messages | artifacts | groupMembers | gatewayJobs | pushConfigs
  | events | gatewaySessions
  deriving DecidableEq

def references (store : Store) : Referring → List References
  | .agents => store.agents.rows.map agentRefs
  | .contexts => store.contexts.rows.map contextRefs
  | .tasks => store.tasks.rows.map taskRefs
  | .messages => store.messages.rows.map messageRefs
  | .artifacts => store.artifacts.rows.map artifactRefs
  | .groupMembers => store.groupMembers.rows.map memberRefs
  | .gatewayJobs => store.gatewayJobs.rows.map jobRefs
  | .pushConfigs => store.pushConfigs.rows.map pushConfigRefs
  | .events => store.events.rows.map eventRefs
  | .gatewaySessions => store.gatewaySessions.rows.map sessionRefs

def memberRank (row : GroupMemberRecord) : GroupName × RankName := (row.groupName, row.rankName)

def sessionName (row : GatewaySessionRecord) : String × String × AgentAlias × String :=
  (row.sourceKind, row.sourceId, row.agentAlias, row.resumeName)

/-- The foreign keys and the unique columns of the schema. -/
structure Intact (store : Store) : Prop where
  resolved : ∀ referring, ∀ refs ∈ references store referring, Resolved store refs
  eventIds : UniqueBy EventRecord.eventId store.events
  ranks : UniqueBy memberRank store.groupMembers
  sessions : UniqueBy sessionName store.gatewaySessions

theorem intact_empty : Intact Store.empty where
  resolved referring refs member := by cases referring <;> cases member
  eventIds first left := by cases left
  ranks first left := by cases left
  sessions first left := by cases left

def Stays (before after : World) : Prop := Intact before.store → Intact after.store

def Preserves {Result : Type} (action : Action Result) : Prop := Effect.Moves Stays action

/-! Statements that write one row. -/

section Upserts

variable {store after : Store}

theorem resolved_put {own : Referring} {added : References} (intact : Intact store)
    (others : ∀ other, other ≠ own → references after other = references store other)
    (this : ∀ refs ∈ references after own, refs = added ∨ refs ∈ references store own)
    (grows : ∀ refs, Resolved store refs → Resolved after refs) (fine : Resolved store added)
    (referring : Referring) (refs : References) (member : refs ∈ references after referring) :
    Resolved after refs := by
  by_cases same : referring = own
  · subst same
    rcases this refs member with rfl | stored
    · exact grows _ fine
    · exact grows _ (intact.resolved referring refs stored)
  · rw [others referring same] at member
    exact grows _ (intact.resolved referring refs member)

theorem mem_put_refs {Row Key : Type} [Keyed Row Key] [LinearOrder Key] {table : Table Row}
    {row : Row} (refsOf : Row → References) :
    ∀ refs ∈ (table.put row).rows.map refsOf, refs = refsOf row ∨ refs ∈ table.rows.map refsOf := by
  intro refs member
  rcases List.mem_map.mp member with ⟨stored, put, rfl⟩
  rcases (table.mem_put row stored).mp put with rfl | ⟨old, -⟩
  · exact Or.inl rfl
  · exact Or.inr (List.mem_map_of_mem old)

theorem written_authRef (intact : Intact store) (row : AuthRefRecord) :
    Intact { store with authRefs := store.authRefs.put row } where
  resolved referring refs member := by
    have stored : refs ∈ references store referring := by cases referring <;> exact member
    have named := intact.resolved referring refs stored
    exact { named with authRef := known_put named.authRef row }
  eventIds := intact.eventIds
  ranks := intact.ranks
  sessions := intact.sessions

theorem written_group (intact : Intact store) (row : GroupRecord) :
    Intact { store with groups := store.groups.put row } where
  resolved referring refs member := by
    have stored : refs ∈ references store referring := by cases referring <;> exact member
    have named := intact.resolved referring refs stored
    exact { named with group := known_put named.group row }
  eventIds := intact.eventIds
  ranks := intact.ranks
  sessions := intact.sessions

theorem written_agent (intact : Intact store) {row : AgentRecord}
    (fine : Resolved store (agentRefs row)) :
    Intact { store with agents := store.agents.put row } where
  resolved := by
    refine @resolved_put _ _ .agents _ intact ?_ (mem_put_refs agentRefs) ?_ fine
    · intro other different
      cases other <;> first | rfl | exact absurd rfl different
    · exact fun refs named => { named with agent := known_put named.agent row }
  eventIds := intact.eventIds
  ranks := intact.ranks
  sessions := intact.sessions

theorem written_context (intact : Intact store) {row : ContextRecord}
    (fine : Resolved store (contextRefs row)) :
    Intact { store with contexts := store.contexts.put row } where
  resolved := by
    refine @resolved_put _ _ .contexts _ intact ?_ (mem_put_refs contextRefs) ?_ fine
    · intro other different
      cases other <;> first | rfl | exact absurd rfl different
    · exact fun refs named => { named with
        context := known_put named.context row
        parent := known_put named.parent row }
  eventIds := intact.eventIds
  ranks := intact.ranks
  sessions := intact.sessions

theorem written_task (intact : Intact store) {row : TaskRecord}
    (fine : Resolved store (taskRefs row)) :
    Intact { store with tasks := store.tasks.put row } where
  resolved := by
    refine @resolved_put _ _ .tasks _ intact ?_ (mem_put_refs taskRefs) ?_ fine
    · intro other different
      cases other <;> first | rfl | exact absurd rfl different
    · exact fun refs named => { named with task := known_put named.task row }
  eventIds := intact.eventIds
  ranks := intact.ranks
  sessions := intact.sessions

theorem written_message (intact : Intact store) {row : MessageRecord}
    (fine : Resolved store (messageRefs row)) :
    Intact { store with messages := store.messages.put row } where
  resolved := by
    refine @resolved_put _ _ .messages _ intact ?_ (mem_put_refs messageRefs) ?_ fine
    · intro other different
      cases other <;> first | rfl | exact absurd rfl different
    · exact fun refs named => { named with }
  eventIds := intact.eventIds
  ranks := intact.ranks
  sessions := intact.sessions

theorem written_artifact (intact : Intact store) {row : ArtifactRecord}
    (fine : Resolved store (artifactRefs row)) :
    Intact { store with artifacts := store.artifacts.put row } where
  resolved := by
    refine @resolved_put _ _ .artifacts _ intact ?_ (mem_put_refs artifactRefs) ?_ fine
    · intro other different
      cases other <;> first | rfl | exact absurd rfl different
    · exact fun refs named => { named with }
  eventIds := intact.eventIds
  ranks := intact.ranks
  sessions := intact.sessions

theorem written_member (intact : Intact store) {row : GroupMemberRecord}
    (fine : Resolved store (memberRefs row))
    (alone : ∀ other ∈ store.groupMembers.rows, memberRank other = memberRank row →
      key other = key row) :
    Intact { store with groupMembers := store.groupMembers.put row } where
  resolved := by
    refine @resolved_put _ _ .groupMembers _ intact ?_ (mem_put_refs memberRefs) ?_ fine
    · intro other different
      cases other <;> first | rfl | exact absurd rfl different
    · exact fun refs named => { named with }
  eventIds := intact.eventIds
  ranks := unique_put intact.ranks row alone
  sessions := intact.sessions

theorem written_job (intact : Intact store) {row : GatewayJobRecord}
    (fine : Resolved store (jobRefs row)) :
    Intact { store with gatewayJobs := store.gatewayJobs.put row } where
  resolved := by
    refine @resolved_put _ _ .gatewayJobs _ intact ?_ (mem_put_refs jobRefs) ?_ fine
    · intro other different
      cases other <;> first | rfl | exact absurd rfl different
    · exact fun refs named => { named with gatewayJob := known_put named.gatewayJob row }
  eventIds := intact.eventIds
  ranks := intact.ranks
  sessions := intact.sessions

theorem written_pushConfig (intact : Intact store) {row : PushConfigRecord}
    (fine : Resolved store (pushConfigRefs row)) :
    Intact { store with pushConfigs := store.pushConfigs.put row } where
  resolved := by
    refine @resolved_put _ _ .pushConfigs _ intact ?_ (mem_put_refs pushConfigRefs) ?_ fine
    · intro other different
      cases other <;> first | rfl | exact absurd rfl different
    · exact fun refs named => { named with }
  eventIds := intact.eventIds
  ranks := intact.ranks
  sessions := intact.sessions

theorem written_session (intact : Intact store) {row : GatewaySessionRecord}
    (fine : Resolved store (sessionRefs row))
    (alone : ∀ other ∈ store.gatewaySessions.rows, sessionName other = sessionName row →
      key other = key row) :
    Intact { store with gatewaySessions := store.gatewaySessions.put row } where
  resolved := by
    refine @resolved_put _ _ .gatewaySessions _ intact ?_ (mem_put_refs sessionRefs) ?_ fine
    · intro other different
      cases other <;> first | rfl | exact absurd rfl different
    · exact fun refs named => { named with }
  eventIds := intact.eventIds
  ranks := intact.ranks
  sessions := unique_put intact.sessions row alone

theorem written_event (intact : Intact store) (input : EventInsert) (time : MilliTime)
    (fine : Resolved store (eventRefs (input.toRecord time store.nextSequence)))
    (alone : ∀ other ∈ store.events.rows, other.eventId ≠ input.eventId) :
    Intact (withEvent store input time) where
  resolved := by
    refine @resolved_put _ _ .events _ intact ?_ (mem_put_refs eventRefs) ?_ fine
    · intro other different
      cases other <;> first | rfl | exact absurd rfl different
    · exact fun refs named => { named with }
  eventIds := unique_put intact.eventIds _ fun other stored same => absurd same (alone other stored)
  ranks := intact.ranks
  sessions := intact.sessions

end Upserts

section Actions

variable {Result Other : Type}

theorem stays_refl (world : World) : Stays world world := id

theorem stays_trans (first middle last : World) (before : Stays first middle)
    (after : Stays middle last) : Stays first last := fun intact => after (before intact)

theorem preserves_pure (result : Result) : Preserves (pure result : Action Result) :=
  Effect.moves_pure stays_refl result

theorem preserves_bind {first : Action Result} {next : Result → Action Other}
    (head : Preserves first) (tail : ∀ result, Preserves (next result)) :
    Preserves (first >>= next) := Effect.moves_bind stays_trans head tail

theorem preserves_readStore (query : Store → Result) : Preserves (readStore query) := fun _ => id

theorem preserves_sqlNow : Preserves sqlNow := fun _ => id

theorem preserves_discard {action : Action Result} (inner : Preserves action) :
    Preserves (CardCaching.discard action) := preserves_bind inner fun _ => preserves_pure ()

theorem preserves_execute {action : String} {refused : Store → Option String}
    {write : Store → Store}
    (fine : ∀ store, Intact store → refused store = none → Intact (write store)) :
    Preserves (execute action refused write) := by
  intro world intact
  cases outcome : refused world.store with
  | some error =>
      simp only [execute, outcome]
      exact intact
  | none =>
      simp only [execute, outcome]
      exact fine world.store intact outcome

theorem preserves_transaction {body : Action Result} (inner : Preserves body) :
    Preserves (transaction body) := by
  have undone (before after : World) (_ : Stays before after) :
      Stays before (after.withStore before.store) := id
  exact Effect.moves_transaction undone inner

theorem preserves_upsertRow {Row Key : Type} [Keyed Row Key] [LinearOrder Key]
    {table : StoreTable Row} {checked : Except MissiveError Unit} {action kind identifier : String}
    {wanted : Key} {refused : Store → Option String} {record : MilliTime → Option Row → Row}
    (keyed : ∀ time existing, key (record time existing) = wanted)
    (fine : ∀ store time existing, Intact store → refused store = none →
      Intact (table.withRows store ((table.rows store).put (record time existing)))) :
    Preserves (upsertRow table checked action kind identifier wanted refused record) := by
  intro world intact
  rcases upsertRow_cases table checked action kind identifier wanted refused record keyed world with
    ⟨error, after, failed, same⟩ | ⟨_, accepted, wrote⟩
  · rw [failed]
    change Intact after.store
    rwa [same]
  · rw [wrote]
    exact fine world.store _ _ intact accepted

theorem accepts {accepted : Bool} {error : String} (passed : refuseUnless accepted error = none) :
    accepted = true := by
  cases accepted with
  | true => rfl
  | false => cases passed

end Actions

section Writes

theorem preserves_upsertAuthRef (input : AuthRefUpsert) : Preserves (upsertAuthRef input) :=
  preserves_upsertRow (fun _ _ => rfl) fun _ _ _ intact _ => written_authRef intact _

theorem preserves_upsertGroup (input : GroupUpsert) : Preserves (upsertGroup input) :=
  preserves_upsertRow (fun _ _ => rfl) fun _ _ _ intact _ => written_group intact _

-- A reference that is null is resolved.
theorem resolved_nothing (store : Store) : Resolved store nothing :=
  ⟨rfl, rfl, rfl, rfl, rfl, rfl, rfl, rfl⟩

theorem preserves_upsertAgent (input : AgentUpsert) : Preserves (upsertAgent input) := by
  refine preserves_upsertRow (fun _ _ => rfl) ?_
  intro store time existing intact accepted
  exact written_agent intact { resolved_nothing store with authRef := accepts accepted }

theorem preserves_upsertContext (input : ContextUpsert) : Preserves (upsertContext input) := by
  refine preserves_upsertRow (fun _ _ => rfl) ?_
  intro store time existing intact accepted
  split at accepted
  · cases accepted
  · have named := Bool.and_eq_true_iff.mp (accepts accepted)
    exact written_context intact
      { resolved_nothing store with agent := named.1, parent := named.2 }

theorem preserves_upsertTask (input : TaskUpsert) : Preserves (upsertTask input) := by
  refine preserves_upsertRow (fun _ _ => rfl) ?_
  intro store time existing intact accepted
  have named := Bool.and_eq_true_iff.mp (accepts accepted)
  exact written_task intact { resolved_nothing store with agent := named.1, context := named.2 }

theorem preserves_insertMessage (input : MessageInsert) : Preserves (insertMessage input) := by
  refine preserves_upsertRow (fun _ _ => rfl) ?_
  intro store time existing intact accepted
  unfold MessageInsert.refused at accepted
  split at accepted
  · cases accepted
  · have named := accepts accepted
    simp only [Bool.and_eq_true] at named
    exact written_message intact { resolved_nothing store with
      agent := named.1.1, context := named.1.2, task := named.2 }

theorem preserves_upsertArtifact (input : ArtifactUpsert) : Preserves (upsertArtifact input) := by
  refine preserves_upsertRow (fun _ _ => rfl) ?_
  intro store time existing intact accepted
  unfold ArtifactUpsert.refused at accepted
  split at accepted
  · cases accepted
  · have named := Bool.and_eq_true_iff.mp (accepts accepted)
    exact written_artifact intact { resolved_nothing store with
      task := named.1, context := named.2 }

theorem preserves_upsertGatewayJob (input : GatewayJobUpsert) :
    Preserves (upsertGatewayJob input) := by
  refine preserves_upsertRow (fun _ _ => rfl) ?_
  intro store time existing intact accepted
  have named := accepts accepted
  simp only [Bool.and_eq_true] at named
  exact written_job intact { resolved_nothing store with
    agent := named.1.1.1.1, context := named.1.1.1.2, task := named.1.1.2, group := named.1.2,
    adapterBinding := named.2 }

theorem preserves_upsertPushConfig (input : PushConfigUpsert) :
    Preserves (upsertPushConfig input) := by
  refine preserves_upsertRow (fun _ _ => rfl) ?_
  intro store time existing intact accepted
  have named := accepts accepted
  simp only [Bool.and_eq_true] at named
  exact written_pushConfig intact { resolved_nothing store with
    agent := named.1.1, task := named.1.2, authRef := named.2 }

theorem preserves_upsertGroupMember (display : UInt64 → String) (input : GroupMemberUpsert) :
    Preserves (upsertGroupMember display input) := by
  refine preserves_upsertRow (fun _ _ => rfl) ?_
  intro store time existing intact accepted
  unfold GroupMemberUpsert.refused at accepted
  split at accepted
  · cases accepted
  · rename_i free
    have named := Bool.and_eq_true_iff.mp (accepts accepted)
    refine written_member intact { resolved_nothing store with
      group := named.1, agent := named.2 } ?_
    intro other stored same
    have ranked := Prod.mk.inj same
    have taken : ∀ row ∈ store.groupMembers.rows, row.groupName = input.groupName →
        row.rankName = input.rankName → row.agentAlias = input.agentAlias := by
      simpa [rankTaken, List.any_eq_true] using free
    exact GroupDirectory.memberKey_iff.mpr ⟨ranked.1, taken other stored ranked.1 ranked.2⟩

theorem preserves_upsertGatewaySession (jsonValid : Json → Bool) (input : GatewaySessionUpsert) :
    Preserves (upsertGatewaySession jsonValid input) := by
  refine preserves_upsertRow (fun _ _ => rfl) ?_
  intro store time existing intact accepted
  unfold GatewaySessionUpsert.refused at accepted
  split at accepted
  · cases accepted
  · split at accepted
    · cases accepted
    · rename_i free
      have named := Bool.and_eq_true_iff.mp (accepts accepted)
      refine written_session intact { resolved_nothing store with
        agent := named.1, context := named.2 } ?_
      intro other stored same
      simp only [sessionTaken, List.any_eq_true, not_exists, not_and] at free
      have apart := free other stored
      have names : other.sourceKind = input.sourceKind ∧ other.sourceId = input.sourceId ∧
          other.agentAlias = input.agentAlias ∧ other.resumeName = input.resumeName := by
        simp only [sessionName, Prod.mk.injEq] at same
        exact same
      change other.gatewaySessionId = input.gatewaySessionId
      simpa [names] using apart

theorem preserves_appendEvent (input : EventInsert) : Preserves (appendEvent input) := by
  intro world intact
  rcases appendEvent_cases input world with ⟨error, after, failed, same⟩ | ⟨accepted, appended⟩
  · rw [failed]
    change Intact after.store
    rwa [same]
  · rw [appended]
    unfold EventInsert.refused at accepted
    split at accepted
    · cases accepted
    · rename_i free
      have named := accepts accepted
      simp only [Bool.and_eq_true] at named
      refine written_event intact input _ { resolved_nothing world.store with
        agent := named.1.1.1.1.1, context := named.1.1.1.1.2, task := named.1.1.1.2,
        group := named.1.1.2, gatewayJob := named.1.2, adapterBinding := named.2 } ?_
      intro other stored same
      exact free (List.any_eq_true.mpr ⟨other, stored, by simp [same]⟩)

end Writes

/-! Deletions. The references that remain are those there were, with the deleted row's key
cleared. -/

section Deletions

variable {store after : Store} {change : References → References} {Row Key : Type}
  [Keyed Row Key] [LinearOrder Key] {refsOf : Row → References} {rows others : List Row}

theorem refs_kept (same : ∀ row, refsOf row = change (refsOf row)) :
    ∀ refs ∈ rows.map refsOf, ∃ old ∈ rows.map refsOf, refs = change old := by
  intro refs member
  rcases List.mem_map.mp member with ⟨row, stored, rfl⟩
  exact ⟨_, List.mem_map_of_mem stored, same row⟩

theorem refs_mapped {cleared : Row → Row}
    (same : ∀ row, refsOf (cleared row) = change (refsOf row)) :
    ∀ refs ∈ (rows.map cleared).map refsOf, ∃ old ∈ rows.map refsOf, refs = change old := by
  intro refs member
  rcases List.mem_map.mp member with ⟨row, mapped, rfl⟩
  rcases List.mem_map.mp mapped with ⟨old, stored, rfl⟩
  exact ⟨_, List.mem_map_of_mem stored, same old⟩

theorem refs_filtered {keep : Row → Bool}
    (same : ∀ row, keep row = true → refsOf row = change (refsOf row)) :
    ∀ refs ∈ (rows.filter keep).map refsOf, ∃ old ∈ rows.map refsOf, refs = change old := by
  intro refs member
  rcases List.mem_map.mp member with ⟨row, filtered, rfl⟩
  have stored := List.mem_filter.mp filtered
  exact ⟨_, List.mem_map_of_mem stored.1, same row stored.2⟩

theorem resolved_changed (intact : Intact store)
    (before : ∀ referring, ∀ refs ∈ references after referring,
      ∃ old ∈ references store referring, refs = change old)
    (still : ∀ refs, Resolved store refs → Resolved after (change refs))
    (referring : Referring) (refs : References) (member : refs ∈ references after referring) :
    Resolved after refs := by
  rcases before referring refs member with ⟨old, stored, rfl⟩
  exact still old (intact.resolved referring old stored)

theorem without_authRef (intact : Intact store) (name : String) :
    Intact (withoutAuthRef store name) where
  resolved := by
    refine @resolved_changed _ _
      (fun refs => { refs with authRefName := clear name refs.authRefName }) intact ?_ ?_
    · intro referring
      cases referring with
      | agents => exact refs_mapped fun _ => rfl
      | pushConfigs => exact refs_mapped fun _ => rfl
      | _ => exact refs_kept fun _ => rfl
    · exact fun refs named => { named with
        authRef := known_clear named.authRef
        agent := known_mapRows (fun _ => by rfl) named.agent }
  eventIds := intact.eventIds
  ranks := intact.ranks
  sessions := intact.sessions

-- `tasks.agent_alias` restricts the deletion.
theorem without_agent (intact : Intact store) {name : AgentAlias}
    (free : ∀ row ∈ store.tasks.rows, row.agentAlias ≠ name) :
    Intact (withoutAgent store name) where
  resolved := by
    refine @resolved_changed _ _
      (fun refs => { refs with agentAlias := clear name refs.agentAlias }) intact ?_ ?_
    · intro referring
      cases referring with
      | agents => exact refs_filtered fun _ _ => rfl
      | contexts => exact refs_mapped fun _ => rfl
      | messages => exact refs_mapped fun _ => rfl
      | gatewayJobs => exact refs_mapped fun _ => rfl
      | events => exact refs_mapped fun _ => rfl
      | groupMembers =>
          apply refs_filtered
          intro row stays
          have other : some row.agentAlias ≠ some name := by simpa using stays
          simp [memberRefs, nothing, clear_other other]
      | pushConfigs =>
          apply refs_filtered
          intro row stays
          have other : some row.agentAlias ≠ some name := by simpa using stays
          simp [pushConfigRefs, nothing, clear_other other]
      | gatewaySessions =>
          apply refs_filtered
          intro row stays
          have other : some row.agentAlias ≠ some name := by simpa using stays
          simp [sessionRefs, nothing, clear_other other]
      | tasks =>
          intro refs member
          rcases List.mem_map.mp member with ⟨row, stored, rfl⟩
          refine ⟨_, List.mem_map_of_mem stored, ?_⟩
          have other : some row.agentAlias ≠ some name := by simpa using free row stored
          simp [taskRefs, nothing, clear_other other]
      | _ => exact refs_kept fun _ => rfl
    · exact fun refs named => { named with
        agent := known_clear named.agent
        context := known_mapRows (fun _ => by rfl) named.context
        parent := known_mapRows (fun _ => by rfl) named.parent
        gatewayJob := known_mapRows (fun _ => by rfl) named.gatewayJob }
  eventIds := unique_mapRows intact.eventIds (fun _ => by rfl) fun _ => rfl
  ranks := unique_filter intact.ranks _
  sessions := unique_filter intact.sessions _

-- `gateway_sessions.context_id` restricts the deletion.
theorem without_context (intact : Intact store) {id : ContextId}
    (free : ∀ row ∈ store.gatewaySessions.rows, row.contextId ≠ id) :
    Intact (withoutContext store id) where
  resolved := by
    refine @resolved_changed _ _ (fun refs => { refs with
      contextId := clear id refs.contextId
      parentContextId := clear id refs.parentContextId }) intact ?_ ?_
    · intro referring
      cases referring with
      | contexts =>
          intro refs member
          rcases List.mem_map.mp member with ⟨_, mapped, rfl⟩
          rcases List.mem_map.mp mapped with ⟨row, stored, rfl⟩
          exact ⟨_, List.mem_map_of_mem (List.mem_of_mem_filter stored), rfl⟩
      | tasks => exact refs_mapped fun _ => rfl
      | messages => exact refs_mapped fun _ => rfl
      | artifacts => exact refs_mapped fun _ => rfl
      | gatewayJobs => exact refs_mapped fun _ => rfl
      | events => exact refs_mapped fun _ => rfl
      | gatewaySessions =>
          intro refs member
          rcases List.mem_map.mp member with ⟨row, stored, rfl⟩
          refine ⟨_, List.mem_map_of_mem stored, ?_⟩
          have other : some row.contextId ≠ some id := by simpa using free row stored
          simp [sessionRefs, nothing, clear_other other]
      | _ => exact refs_kept fun _ => rfl
    · exact fun refs named => { named with
        context := known_mapRows (fun _ => by rfl) (known_clear named.context)
        parent := known_mapRows (fun _ => by rfl) (known_clear named.parent)
        task := known_mapRows (fun _ => by rfl) named.task
        gatewayJob := known_mapRows (fun _ => by rfl) named.gatewayJob }
  eventIds := unique_mapRows intact.eventIds (fun _ => by rfl) fun _ => rfl
  ranks := intact.ranks
  sessions := intact.sessions

theorem without_task (intact : Intact store) (id : TaskId) : Intact (withoutTask store id) where
  resolved := by
    refine @resolved_changed _ _
      (fun refs => { refs with taskId := clear id refs.taskId }) intact ?_ ?_
    · intro referring
      cases referring with
      | messages => exact refs_mapped fun _ => rfl
      | gatewayJobs => exact refs_mapped fun _ => rfl
      | events => exact refs_mapped fun _ => rfl
      | tasks => exact refs_filtered fun _ _ => rfl
      | artifacts =>
          apply refs_filtered
          intro row stays
          have other : some row.taskId ≠ some id := by simpa using stays
          simp [artifactRefs, nothing, clear_other other]
      | pushConfigs =>
          apply refs_filtered
          intro row stays
          have other : row.taskId ≠ some id := by simpa using stays
          simp [pushConfigRefs, nothing, clear_other other]
      | _ => exact refs_kept fun _ => rfl
    · exact fun refs named => { named with
        task := known_clear named.task
        gatewayJob := known_mapRows (fun _ => by rfl) named.gatewayJob }
  eventIds := unique_mapRows intact.eventIds (fun _ => by rfl) fun _ => rfl
  ranks := intact.ranks
  sessions := intact.sessions

theorem without_group (intact : Intact store) (name : GroupName) :
    Intact (withoutGroup store name) where
  resolved := by
    refine @resolved_changed _ _
      (fun refs => { refs with groupName := clear name refs.groupName }) intact ?_ ?_
    · intro referring
      cases referring with
      | gatewayJobs => exact refs_mapped fun _ => rfl
      | events => exact refs_mapped fun _ => rfl
      | groupMembers =>
          apply refs_filtered
          intro row stays
          have other : some row.groupName ≠ some name := by simpa using stays
          simp [memberRefs, nothing, clear_other other]
      | _ => exact refs_kept fun _ => rfl
    · exact fun refs named => { named with
        group := known_clear named.group
        gatewayJob := known_mapRows (fun _ => by rfl) named.gatewayJob }
  eventIds := unique_mapRows intact.eventIds (fun _ => by rfl) fun _ => rfl
  ranks := unique_filter intact.ranks _
  sessions := intact.sessions

theorem without_gatewayJob (intact : Intact store) (id : GatewayJobId) :
    Intact (withoutGatewayJob store id) where
  resolved := by
    refine @resolved_changed _ _
      (fun refs => { refs with gatewayJobId := clear id refs.gatewayJobId }) intact ?_ ?_
    · intro referring
      cases referring with
      | events => exact refs_mapped fun _ => rfl
      | gatewayJobs => exact refs_filtered fun _ _ => rfl
      | _ => exact refs_kept fun _ => rfl
    · exact fun refs named => { named with gatewayJob := known_clear named.gatewayJob }
  eventIds := unique_mapRows intact.eventIds (fun _ => by rfl) fun _ => rfl
  ranks := intact.ranks
  sessions := intact.sessions

-- Nothing refers to the rows of the other tables.
theorem without_message (intact : Intact store) (id : MessageId) :
    Intact { store with messages := without store.messages id } where
  resolved := by
    refine @resolved_changed _ _ (fun refs => refs) intact ?_ fun refs named => { named with }
    intro referring
    cases referring with
    | messages => exact refs_filtered fun _ _ => rfl
    | _ => exact refs_kept fun _ => rfl
  eventIds := intact.eventIds
  ranks := intact.ranks
  sessions := intact.sessions

theorem without_artifact (intact : Intact store) (id : ArtifactId) :
    Intact { store with artifacts := without store.artifacts id } where
  resolved := by
    refine @resolved_changed _ _ (fun refs => refs) intact ?_ fun refs named => { named with }
    intro referring
    cases referring with
    | artifacts => exact refs_filtered fun _ _ => rfl
    | _ => exact refs_kept fun _ => rfl
  eventIds := intact.eventIds
  ranks := intact.ranks
  sessions := intact.sessions

theorem without_event (intact : Intact store) (id : EventId) : Intact (withoutEvent store id) where
  resolved := by
    refine @resolved_changed _ _ (fun refs => refs) intact ?_ fun refs named => { named with }
    intro referring
    cases referring with
    | events => exact refs_filtered fun _ _ => rfl
    | _ => exact refs_kept fun _ => rfl
  eventIds := unique_filter intact.eventIds _
  ranks := intact.ranks
  sessions := intact.sessions

theorem without_session (intact : Intact store) (id : GatewaySessionId) :
    Intact { store with gatewaySessions := without store.gatewaySessions id } where
  resolved := by
    refine @resolved_changed _ _ (fun refs => refs) intact ?_ fun refs named => { named with }
    intro referring
    cases referring with
    | gatewaySessions => exact refs_filtered fun _ _ => rfl
    | _ => exact refs_kept fun _ => rfl
  eventIds := intact.eventIds
  ranks := intact.ranks
  sessions := unique_filter intact.sessions _

theorem without_member (intact : Intact store) (groupName : GroupName) (agentAlias : AgentAlias) :
    Intact (withoutMember store groupName agentAlias) where
  resolved := by
    refine @resolved_changed _ _ (fun refs => refs) intact ?_ fun refs named => { named with }
    intro referring
    cases referring with
    | groupMembers => exact refs_filtered fun _ _ => rfl
    | _ => exact refs_kept fun _ => rfl
  eventIds := intact.eventIds
  ranks := unique_filter intact.ranks _
  sessions := intact.sessions

end Deletions

/-! The renaming of a group. -/

section Renaming

variable {store : Store} {old new : GroupName} {time : MilliTime}

theorem name_free (intact : Intact store) (absent : store.groups.find? new = none) :
    GroupDirectory.Free store new := by
  constructor
  · intro row stored same
    have found := store.groups.find?_self row stored
    rw [show key row = new from same, absent] at found
    cases found
  · intro row stored same
    have named := (intact.resolved .groupMembers _ (List.mem_map_of_mem stored)).group
    simp [memberRefs, Store.hasGroup, same, absent] at named

theorem renamedReference_map (reference : Option GroupName) :
    renamedReference old new reference =
      reference.map fun name => if name = old then new else name := by
  cases reference with
  | none => rfl
  | some name =>
      by_cases own : name = old
      · simp [renamedReference, own]
      · simp [renamedReference, own]

theorem renamed_group (intact : Intact store) (free : GroupDirectory.Free store new) :
    Intact (withGroupRenamed store old new time) where
  resolved := by
    refine @resolved_changed _ _ (fun refs =>
      { refs with groupName := renamedReference old new refs.groupName }) intact ?_ ?_
    · intro referring
      cases referring with
      | gatewayJobs => exact refs_mapped fun _ => rfl
      | events => exact refs_mapped fun _ => rfl
      | groupMembers =>
          intro refs member
          rcases List.mem_map.mp member with ⟨row, stored, rfl⟩
          rcases (mem_rekey (GroupDirectory.members_apart free)).mp stored with ⟨past, was, rfl⟩
          refine ⟨_, List.mem_map_of_mem was, ?_⟩
          by_cases own : past.groupName = old
          · simp [memberRefs, nothing, renamedMember, renamedReference, own]
          · simp [memberRefs, nothing, renamedMember, renamedReference, own]
      | _ => exact refs_kept fun _ => rfl
    · intro refs named
      have group : (withGroupRenamed store old new time).hasGroup
          (renamedReference old new refs.groupName) = true := by
        rw [renamedReference_map]
        exact known_rekey (GroupDirectory.groups_apart free)
          (fun row _ => GroupDirectory.renamedGroup_name row) named.group
      exact { named with
        group := group
        gatewayJob := known_mapRows (fun _ => by rfl) named.gatewayJob }
  eventIds := unique_mapRows intact.eventIds (fun _ => by rfl) fun _ => rfl
  ranks := by
    apply unique_rekey intact.ranks (GroupDirectory.members_apart free)
    · intro first left last right same
      have names := (Prod.mk.inj same).1
      rw [GroupDirectory.renamedMember_name, GroupDirectory.renamedMember_name] at names
      have groups := GroupDirectory.renamed_injective (free.members first left)
        (free.members last right) names
      have ranks : (renamedMember old new first).rankName = (renamedMember old new last).rankName :=
        (Prod.mk.inj same).2
      have kept (row : GroupMemberRecord) :
          (renamedMember old new row).rankName = row.rankName := by
        unfold renamedMember
        split <;> rfl
      rw [kept, kept] at ranks
      exact Prod.ext groups ranks
    · intro first left last right same
      rw [store.groupMembers.unique left right same]
  sessions := intact.sessions

end Renaming

/-! The statements. -/

section Statements

theorem preserves_deleteByKey {action : String} {found : Store → Bool}
    {refused : Store → Option String} {write : Store → Store}
    (fine : ∀ store, Intact store → refused store = none → Intact (write store)) :
    Preserves (deleteByKey action found refused write) := by
  refine preserves_bind (preserves_readStore found) fun affected => ?_
  exact preserves_bind (preserves_execute fine) fun _ => preserves_pure affected

-- No session refers to a context that is not there.
theorem preserves_deleteContext (id : ContextId) : Preserves (deleteContext id) := by
  apply preserves_deleteByKey
  intro store intact accepted
  apply without_context intact
  intro row stored same
  have named := (intact.resolved .gatewaySessions _ (List.mem_map_of_mem stored)).context
  have free := accepts accepted
  simp only [sessionRefs, Store.hasContext, Option.all_some, same] at named
  simp only [Bool.or_eq_true, List.all_eq_true, decide_eq_true_eq, ne_eq] at free
  rcases free with missing | free
  · rw [Option.isNone_iff_eq_none.mp missing] at named
    cases named
  · exact free row stored same

theorem preserves_deleteAgent (name : AgentAlias) : Preserves (deleteAgent name) := by
  refine preserves_bind (preserves_readStore _) fun found => ?_
  refine preserves_bind (preserves_execute ?_) fun _ => preserves_pure _
  intro store intact accepted
  cases found with
  | none => exact intact
  | some record =>
      have free := accepts accepted
      apply without_agent intact
      intro row stored
      simpa using List.all_eq_true.mp free row stored

theorem preserves_deleteGroup (name : GroupName) : Preserves (deleteGroup name) := by
  refine preserves_bind (preserves_readStore _) fun found => ?_
  refine preserves_bind (preserves_execute ?_) fun _ => preserves_pure _
  exact fun store intact _ => without_group intact name

theorem preserves_renameGroup (old new : GroupName) : Preserves (renameGroup old new) := by
  refine preserves_bind (preserves_readStore _) fun found => ?_
  refine preserves_bind preserves_sqlNow fun time => ?_
  refine preserves_bind (preserves_execute ?_) fun _ => preserves_pure _
  intro store intact accepted
  cases found with
  | none => exact intact
  | some record =>
      have absent := accepts accepted
      simp only [Option.isNone_some, Bool.false_or, Option.isNone_iff_eq_none] at absent
      exact renamed_group intact (name_free intact absent)

theorem preserves_removeGroupMember (groupName : GroupName) (agentAlias : AgentAlias) :
    Preserves (removeGroupMember groupName agentAlias) := by
  refine preserves_bind (preserves_readStore _) fun found => ?_
  refine preserves_bind (preserves_execute ?_) fun _ => preserves_pure _
  exact fun store intact _ => without_member intact groupName agentAlias

theorem preserves_deleteGatewayJob (id : GatewayJobId) : Preserves (deleteGatewayJob id) := by
  refine preserves_bind (preserves_readStore _) fun found => ?_
  refine preserves_bind (preserves_execute ?_) fun _ => preserves_pure _
  exact fun store intact _ => without_gatewayJob intact id

-- A deleted push config keeps its row.
theorem preserves_deletePushConfig (id : PushConfigId) : Preserves (deletePushConfig id) := by
  refine preserves_bind (preserves_readStore _) fun found => ?_
  refine preserves_bind preserves_sqlNow fun time => ?_
  refine preserves_bind (preserves_execute ?_) fun _ => preserves_pure _
  intro store intact _
  unfold PushConfigs.withoutConfig
  split
  · rename_i row known
    split
    · have stored := ((store.pushConfigs.find?_eq_some _ _).mp known).1
      have named := intact.resolved .pushConfigs _ (List.mem_map_of_mem stored)
      exact written_pushConfig intact named
    · exact intact
  · exact intact

end Statements

/-! Statements that fail leave the store as it was. -/

section Failures

variable {Result Other : Type}

def Atomic (action : Action Result) : Prop :=
  ∀ world error after, action world = (.error error, after) → after.store = world.store

theorem atomic_read {query : Store → Other} {next : Other → Action Result}
    (rest : ∀ found, Atomic (next found)) : Atomic (readStore query >>= next) :=
  fun world error after failed => rest (query world.store) world error after failed

theorem atomic_sqlNow {next : MilliTime → Action Result} (rest : ∀ time, Atomic (next time)) :
    Atomic (sqlNow >>= next) :=
  fun world error after failed => rest _ world.later error after failed

theorem atomic_execute (action : String) (refused : Store → Option String) (write : Store → Store)
    (result : Result) : Atomic (execute action refused write >>= fun _ => pure result) := by
  intro world error after failed
  cases outcome : refused world.store with
  | some reason =>
      simp only [Effect.bind_run, execute, outcome] at failed
      cases failed
      rfl
  | none =>
      simp only [Effect.bind_run, execute, outcome] at failed
      cases failed

theorem atomic_upsertRow {Row Key : Type} [Keyed Row Key] [LinearOrder Key]
    {table : StoreTable Row} {checked : Except MissiveError Unit} {action kind identifier : String}
    {wanted : Key} {refused : Store → Option String} {record : MilliTime → Option Row → Row}
    (keyed : ∀ time existing, key (record time existing) = wanted) :
    Atomic (upsertRow table checked action kind identifier wanted refused record) := by
  intro world error after failed
  rcases upsertRow_cases table checked action kind identifier wanted refused record keyed world with
    ⟨_, _, refusal, same⟩ | ⟨_, _, wrote⟩
  · rw [refusal] at failed
    cases failed
    exact same
  · rw [wrote] at failed
    cases failed

theorem atomic_discard {action : Action Result} (inner : Atomic action) :
    Atomic (CardCaching.discard action) := by
  intro world error after failed
  cases ran : action world with
  | mk outcome middle =>
      cases outcome with
      | error early =>
          rw [CardCaching.discard, Effect.bind_error _ _ _ _ _ ran] at failed
          cases failed
          exact inner world error after ran
      | ok result =>
          rw [CardCaching.discard, Effect.bind_ok _ _ _ _ _ ran] at failed
          cases failed

theorem atomic_appendEvent (input : EventInsert) : Atomic (appendEvent input) := by
  intro world error after failed
  rcases appendEvent_cases input world with ⟨_, _, refusal, same⟩ | ⟨_, appended⟩
  · rw [refusal] at failed
    cases failed
    exact same
  · rw [appended] at failed
    cases failed

theorem atomic_deleteByKey (action : String) (found : Store → Bool)
    (refused : Store → Option String) (write : Store → Store) :
    Atomic (deleteByKey action found refused write) :=
  atomic_read fun affected => atomic_execute action refused write affected

end Failures

/-! Runs. -/

inductive Statement where
  | upsertAuthRef (input : AuthRefUpsert)
  | deleteAuthRef (name : String)
  | upsertAgent (input : AgentUpsert)
  | deleteAgent (name : AgentAlias)
  | upsertContext (input : ContextUpsert)
  | deleteContext (id : ContextId)
  | upsertTask (input : TaskUpsert)
  | deleteTask (id : TaskId)
  | insertMessage (input : MessageInsert)
  | deleteMessage (id : MessageId)
  | upsertArtifact (input : ArtifactUpsert)
  | deleteArtifact (id : ArtifactId)
  | appendEvent (input : EventInsert)
  | deleteEvent (id : EventId)
  | upsertGroup (input : GroupUpsert)
  | renameGroup (old new : GroupName)
  | deleteGroup (name : GroupName)
  | upsertGroupMember (input : GroupMemberUpsert)
  | removeGroupMember (groupName : GroupName) (agentAlias : AgentAlias)
  | upsertPushConfig (input : PushConfigUpsert)
  | deletePushConfig (id : PushConfigId)
  | upsertGatewayJob (input : GatewayJobUpsert)
  | deleteGatewayJob (id : GatewayJobId)
  | upsertGatewaySession (input : GatewaySessionUpsert)
  | deleteGatewaySession (id : GatewaySessionId)

section Runs

variable (display : UInt64 → String) (jsonValid : Json → Bool)

def Statement.run : Statement → Action Unit
  | .upsertAuthRef input => CardCaching.discard (ConfigSeeding.upsertAuthRef input)
  | .deleteAuthRef name => CardCaching.discard (StoreStatements.deleteAuthRef name)
  | .upsertAgent input => CardCaching.discard (Repository.upsertAgent input)
  | .deleteAgent name => CardCaching.discard (Repository.deleteAgent name)
  | .upsertContext input => CardCaching.discard (Repository.upsertContext input)
  | .deleteContext id => CardCaching.discard (StoreStatements.deleteContext id)
  | .upsertTask input => CardCaching.discard (Repository.upsertTask input)
  | .deleteTask id => CardCaching.discard (StoreStatements.deleteTask id)
  | .insertMessage input => CardCaching.discard (Repository.insertMessage input)
  | .deleteMessage id => CardCaching.discard (StoreStatements.deleteMessage id)
  | .upsertArtifact input => CardCaching.discard (Repository.upsertArtifact input)
  | .deleteArtifact id => CardCaching.discard (StoreStatements.deleteArtifact id)
  | .appendEvent input => CardCaching.discard (Repository.appendEvent input)
  | .deleteEvent id => CardCaching.discard (StoreStatements.deleteEvent id)
  | .upsertGroup input => CardCaching.discard (GroupTables.upsertGroup input)
  | .renameGroup old new => CardCaching.discard (GroupTables.renameGroup old new)
  | .deleteGroup name => CardCaching.discard (GroupTables.deleteGroup name)
  | .upsertGroupMember input =>
      CardCaching.discard (GroupTables.upsertGroupMember display input)
  | .removeGroupMember groupName agentAlias =>
      CardCaching.discard (GroupTables.removeGroupMember groupName agentAlias)
  | .upsertPushConfig input => CardCaching.discard (PushConfigs.upsertPushConfig input)
  | .deletePushConfig id => CardCaching.discard (PushConfigs.deletePushConfig id)
  | .upsertGatewayJob input => CardCaching.discard (Repository.upsertGatewayJob input)
  | .deleteGatewayJob id => CardCaching.discard (Repository.deleteGatewayJob id)
  | .upsertGatewaySession input =>
      CardCaching.discard (StoreStatements.upsertGatewaySession jsonValid input)
  | .deleteGatewaySession id => CardCaching.discard (StoreStatements.deleteGatewaySession id)

theorem preserves_statement (statement : Statement) :
    Preserves (statement.run display jsonValid) := by
  cases statement with
  | upsertAuthRef input => exact preserves_discard (preserves_upsertAuthRef input)
  | deleteAuthRef name =>
      exact preserves_discard (preserves_deleteByKey fun _ intact _ => without_authRef intact name)
  | upsertAgent input => exact preserves_discard (preserves_upsertAgent input)
  | deleteAgent name => exact preserves_discard (preserves_deleteAgent name)
  | upsertContext input => exact preserves_discard (preserves_upsertContext input)
  | deleteContext id => exact preserves_discard (preserves_deleteContext id)
  | upsertTask input => exact preserves_discard (preserves_upsertTask input)
  | deleteTask id =>
      exact preserves_discard (preserves_deleteByKey fun _ intact _ => without_task intact id)
  | insertMessage input => exact preserves_discard (preserves_insertMessage input)
  | deleteMessage id =>
      exact preserves_discard (preserves_deleteByKey fun _ intact _ => without_message intact id)
  | upsertArtifact input => exact preserves_discard (preserves_upsertArtifact input)
  | deleteArtifact id =>
      exact preserves_discard (preserves_deleteByKey fun _ intact _ => without_artifact intact id)
  | appendEvent input => exact preserves_discard (preserves_appendEvent input)
  | deleteEvent id =>
      exact preserves_discard (preserves_deleteByKey fun _ intact _ => without_event intact id)
  | upsertGroup input => exact preserves_discard (preserves_upsertGroup input)
  | renameGroup old new => exact preserves_discard (preserves_renameGroup old new)
  | deleteGroup name => exact preserves_discard (preserves_deleteGroup name)
  | upsertGroupMember input => exact preserves_discard (preserves_upsertGroupMember display input)
  | removeGroupMember groupName agentAlias =>
      exact preserves_discard (preserves_removeGroupMember groupName agentAlias)
  | upsertPushConfig input => exact preserves_discard (preserves_upsertPushConfig input)
  | deletePushConfig id => exact preserves_discard (preserves_deletePushConfig id)
  | upsertGatewayJob input => exact preserves_discard (preserves_upsertGatewayJob input)
  | deleteGatewayJob id => exact preserves_discard (preserves_deleteGatewayJob id)
  | upsertGatewaySession input =>
      exact preserves_discard (preserves_upsertGatewaySession jsonValid input)
  | deleteGatewaySession id =>
      exact preserves_discard (preserves_deleteByKey fun _ intact _ => without_session intact id)

theorem atomic_statement (statement : Statement) : Atomic (statement.run display jsonValid) := by
  cases statement with
  | appendEvent input => exact atomic_discard (atomic_appendEvent input)
  | deleteAgent name => exact atomic_discard (atomic_read fun _ => atomic_execute _ _ _ _)
  | deleteGroup name => exact atomic_discard (atomic_read fun _ => atomic_execute _ _ _ _)
  | deleteGatewayJob id => exact atomic_discard (atomic_read fun _ => atomic_execute _ _ _ _)
  | removeGroupMember groupName agentAlias =>
      exact atomic_discard (atomic_read fun _ => atomic_execute _ _ _ _)
  | renameGroup old new =>
      exact atomic_discard (atomic_read fun _ => atomic_sqlNow fun _ => atomic_execute _ _ _ _)
  | deletePushConfig id =>
      exact atomic_discard (atomic_read fun _ => atomic_sqlNow fun _ => atomic_execute _ _ _ _)
  | deleteAuthRef name => exact atomic_discard (atomic_deleteByKey _ _ _ _)
  | deleteContext id => exact atomic_discard (atomic_deleteByKey _ _ _ _)
  | deleteTask id => exact atomic_discard (atomic_deleteByKey _ _ _ _)
  | deleteMessage id => exact atomic_discard (atomic_deleteByKey _ _ _ _)
  | deleteArtifact id => exact atomic_discard (atomic_deleteByKey _ _ _ _)
  | deleteEvent id => exact atomic_discard (atomic_deleteByKey _ _ _ _)
  | deleteGatewaySession id => exact atomic_discard (atomic_deleteByKey _ _ _ _)
  | _ => exact atomic_discard (atomic_upsertRow fun _ _ => rfl)

def runAll (statements : List Statement) : Action Unit :=
  Effect.fold (fun _ statement => statement.run display jsonValid) () statements

/-- One statement on its own, or several in a transaction, which the caller may give up. -/
inductive Step (before after : World) : Prop where
  | statement (statement : Statement) (ran : (statement.run display jsonValid before).2 = after)
  | transaction (statements : List Statement) (outcome : Except MissiveError Unit)
      (ran : (transaction (runAll display jsonValid statements >>= fun _ => Effect.lift outcome)
        before).2 = after)

abbrev Reached : World → World → Prop := Relation.ReflTransGen (Step display jsonValid)

theorem preserves_runAll (statements : List Statement) :
    Preserves (runAll display jsonValid statements) :=
  Effect.moves_fold stays_refl stays_trans
    (fun _ statement => preserves_statement display jsonValid statement) () statements

theorem preserves_lift (outcome : Except MissiveError Unit) :
    Preserves (Effect.lift outcome) := Effect.moves_lift stays_refl outcome

theorem step_intact {before after : World} (intact : Intact before.store)
    (step : Step display jsonValid before after) : Intact after.store := by
  cases step with
  | statement statement ran =>
      rw [← ran]
      exact preserves_statement display jsonValid statement before intact
  | transaction statements outcome ran =>
      have kept : Preserves (transaction
          (runAll display jsonValid statements >>= fun _ => Effect.lift outcome)) :=
        preserves_transaction (preserves_bind (preserves_runAll display jsonValid statements)
          fun _ => preserves_lift outcome)
      rw [← ran]
      exact kept before intact

theorem run_intact {before after : World} (intact : Intact before.store)
    (reached : Reached display jsonValid before after) : Intact after.store := by
  induction reached with
  | refl => exact intact
  | tail _ step ih => exact step_intact display jsonValid ih step

end Runs

/-! A context of a known agent, its reply under a parent that is not there, and the two together. -/

def noneValid (_ : Json) : Bool := false

def briefing : ContextId := ⟨"briefing", by decide⟩
def nowhere : ContextId := ⟨"nowhere", by decide⟩

def scoutKnown : Statement := .upsertAgent (AgentUpsert.new GroupRuns.scoutAlias "http://127.0.0.1")
def briefed : Statement :=
  .upsertContext { ContextUpsert.new briefing with agentAlias := some GroupRuns.scoutAlias }
def orphaned : Statement :=
  .upsertContext { ContextUpsert.new nowhere with parentContextId := some ⟨"gone", by decide⟩ }

def knownWorld : World :=
  (scoutKnown.run GroupRuns.plainWeight noneValid GroupRuns.blankWorld).2

def briefedWorld : World := (briefed.run GroupRuns.plainWeight noneValid knownWorld).2

def abandonedTurn : Except MissiveError Unit × World :=
  transaction (runAll GroupRuns.plainWeight noneValid [.deleteContext briefing, orphaned] >>=
    fun _ => Effect.lift (.ok ())) briefedWorld

end Missive.StoreIntegrity
