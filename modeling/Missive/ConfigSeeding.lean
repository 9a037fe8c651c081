import Missive.AgentRename
import Missive.TaskIsolation

/-! The agents of the loaded configuration. Every command that opens the registry writes them over
the rows of the store, read-only, and leaves the other rows as they are. -/
namespace Missive.ConfigSeeding

open KeyedTable Missive.Core Schema Effects Repository AgentRename BackgroundJobs
open TaskIsolation (blankWorld)

inductive ConfigAuthRefKind where
  | env
  | keyring

structure AuthRefConfig where
  kind : ConfigAuthRefKind
  env : Option String
  keyringService : Option String
  keyringAccount : Option String
  header : String
  scheme : String

structure AgentConfig where
  baseUrl : String
  interfaceUrls : List (String × String)
  bindingPreference : List String
  authRef : Option String
  tags : List String
  notes : Option String
  metadata : Metadata

-- The part of the loaded configuration that is seeded.
structure SeededConfig where
  agents : List (String × AgentConfig)
  authRefs : List (String × AuthRefConfig)

/-! Auth refs. -/

structure AuthRefUpsert where
  name : String
  kind : AuthRefKind
  headerName : String
  scheme : Option String
  envVar : Option String
  keyringService : Option String
  keyringAccount : Option String
  secretStorage : AuthSecretStorage
  metadata : Metadata

def AuthRefUpsert.toRecord (input : AuthRefUpsert) (time : MilliTime)
    (existing : Option AuthRefRecord) : AuthRefRecord where
  name := input.name
  kind := input.kind
  headerName := input.headerName
  scheme := input.scheme
  envVar := input.envVar
  keyringService := input.keyringService
  keyringAccount := input.keyringAccount
  secretStorage := input.secretStorage
  metadata := input.metadata
  createdAt := existing.elim time AuthRefRecord.createdAt
  updatedAt := time

def authRefsTable : StoreTable AuthRefRecord :=
  ⟨Store.authRefs, fun store table => { store with authRefs := table }, fun _ _ => rfl⟩

def validateRequiredOption (label : String) : Option String → Except MissiveError Unit
  | none => .error (MissiveError.validation s!"{label} is required")
  | some value => validateNonEmpty label value

def validateAuthRef (input : AuthRefUpsert) : Except MissiveError Unit := do
  validateStoreIdentifier "auth ref name" input.name
  validateLen "auth ref header_name" input.headerName 128
  validateOptionLen "auth ref scheme" input.scheme 64
  match input.kind with
  | .env => validateRequiredOption "auth ref env_var" input.envVar
  | .keyring => do
      validateRequiredOption "auth ref keyring_service" input.keyringService
      validateRequiredOption "auth ref keyring_account" input.keyringAccount
  | .external => .ok ()

def upsertAuthRef (input : AuthRefUpsert) : Action AuthRefRecord :=
  upsertRow authRefsTable (validateAuthRef input) "upserting auth ref" "auth ref" input.name
    input.name (fun _ => none) input.toRecord

def configAuthRefUpsert (name : String) (authRef : AuthRefConfig) : AuthRefUpsert where
  name := name
  kind := match authRef.kind with
    | .env => .env
    | .keyring => .keyring
  headerName := authRef.header
  scheme := some authRef.scheme
  envVar := authRef.env
  keyringService := authRef.keyringService
  keyringAccount := authRef.keyringAccount
  secretStorage := match authRef.kind with
    | .env => .env
    | .keyring => .keyring
  metadata := .new

def syncConfigAuthRefs (authRefs : List (String × AuthRefConfig)) : Action Unit :=
  Effect.fold (fun _ entry => do
    let _ ← upsertAuthRef (configAuthRefUpsert entry.1 entry.2)
    pure ()) () authRefs

/-! Agents. -/

def transportUrlMap (values : List (String × String)) :
    Except MissiveError (List (TransportName × String)) :=
  values.mapM fun entry => do
    let binding ← Id.new .transportName entry.1
    pure (binding, entry.2)

def transportList (values : List String) : Except MissiveError (List TransportName) :=
  values.mapM (Id.new .transportName)

-- The cached card is kept while the base URL stays the same.
def configAgentUpsert (name : AgentAlias) (agent : AgentConfig) (existing : Option AgentRecord) :
    Except MissiveError AgentUpsert := do
  let interfaceUrls ← transportUrlMap agent.interfaceUrls
  let bindingPreference ← transportList agent.bindingPreference
  let input : AgentUpsert := { AgentUpsert.new name agent.baseUrl with
    source := .configSeed
    interfaceUrls := interfaceUrls
    bindingPreference := bindingPreference
    authRefName := agent.authRef
    tags := agent.tags
    notes := agent.notes
    metadata := agent.metadata
    readOnly := true }
  match existing.filter fun existing => existing.baseUrl = agent.baseUrl with
  | some existing => pure { input with
      agentCardJson := existing.agentCardJson
      agentCardEtag := existing.agentCardEtag
      agentCardLastModified := existing.agentCardLastModified
      agentCardFetchedAt := existing.agentCardFetchedAt.map SecondTime.parse }
  | none => pure input

def syncConfigAgent (aliasText : String) (agent : AgentConfig) : Action Unit := do
  let name ← Effect.lift (Id.new .agentAlias aliasText)
  let existing ← getAgent name
  let input ← Effect.lift (configAgentUpsert name agent existing)
  let _ ← upsertAgent input
  pure ()

def syncConfigAgents (agents : List (String × AgentConfig)) : Action Unit :=
  Effect.fold (fun _ entry => syncConfigAgent entry.1 entry.2) () agents

/-- What `open_agent_registry` does once it has the state lock and the store. -/
def openAgentRegistry (config : SeededConfig) : Action Unit := do
  syncConfigAuthRefs config.authRefs
  syncConfigAgents config.agents

/-! What a sync leaves. -/

def Configured (agents : List (String × AgentConfig)) (name : AgentAlias) : Prop :=
  ∃ entry ∈ agents, entry.1 = name.text

theorem configAgentUpsert_made {name : AgentAlias} {agent : AgentConfig}
    {existing : Option AgentRecord} {input : AgentUpsert}
    (made : configAgentUpsert name agent existing = .ok input) :
    input.aliasName = name ∧ input.readOnly = true := by
  obtain ⟨urls, _, listed⟩ := except_bind_returned made
  obtain ⟨bindings, _, built⟩ := except_bind_returned listed
  cases kept : existing.filter fun existing => existing.baseUrl = agent.baseUrl with
  | some row =>
      simp only [kept] at built
      cases built
      exact ⟨rfl, rfl⟩
  | none =>
      simp only [kept] at built
      cases built
      exact ⟨rfl, rfl⟩

/-- One agent of the configuration: its row is written read-only, and no other row moves. -/
theorem syncConfigAgent_returned {aliasText : String} {agent : AgentConfig} {world after : World}
    (ran : syncConfigAgent aliasText agent world = (.ok (), after)) :
    ∃ row : AgentRecord, row.aliasName.text = aliasText ∧ row.readOnly = true ∧
      after.store.agents = world.store.agents.put row := by
  obtain ⟨name, named, looked⟩ := Effect.lift_bind_returned ran
  obtain ⟨existing, middle, read, rest⟩ := Effect.bind_returned looked
  cases read
  obtain ⟨input, made, written⟩ := Effect.lift_bind_returned rest
  obtain ⟨row, last, upserted, finished⟩ := Effect.bind_returned written
  cases finished
  obtain ⟨keyed, readOnly⟩ := configAgentUpsert_made made
  obtain ⟨shown, stored⟩ := upsertAgent_returned upserted
  refine ⟨row, ?_, ?_, by rw [stored]⟩
  · rw [shown]
    simp only [AgentUpsert.toRecord, keyed]
    exact Id.text_of_new named
  · rw [shown]
    exact readOnly

theorem syncConfigAgents_returned {agents : List (String × AgentConfig)} {world after : World}
    (ran : syncConfigAgents agents world = (.ok (), after)) (name : AgentAlias) :
    (Configured agents name → ∃ row, after.store.agents.find? name = some row ∧ row.readOnly = true) ∧
    (¬ Configured agents name → after.store.agents.find? name = world.store.agents.find? name) := by
  induction agents generalizing world with
  | nil =>
      cases ran
      constructor
      · rintro ⟨entry, member, _⟩
        cases member
      · intro _
        rfl
  | cons entry rest ih =>
      obtain ⟨_, middle, first, others⟩ := Effect.bind_returned ran
      obtain ⟨row, keyed, readOnly, stored⟩ := syncConfigAgent_returned first
      obtain ⟨listed, unlisted⟩ := ih others
      by_cases later : Configured rest name
      · constructor
        · intro _
          exact listed later
        · intro free
          obtain ⟨other, member, same⟩ := later
          exact absurd ⟨other, List.mem_cons_of_mem _ member, same⟩ free
      · rw [unlisted later, stored, Table.find?_put]
        by_cases own : name = key row
        · rw [if_pos own]
          constructor
          · intro _
            exact ⟨row, rfl, readOnly⟩
          · intro free
            subst own
            exact absurd ⟨entry, List.mem_cons_self, keyed.symm⟩ free
        · rw [if_neg own]
          constructor
          · rintro ⟨other, member, same⟩
            rcases List.mem_cons.mp member with rfl | among
            · exact absurd (Id.ext_text (same.symm.trans keyed.symm)) own
            · exact absurd ⟨other, among, same⟩ later
          · intro _
            rfl

theorem keeps_syncConfigAuthRefs (authRefs : List (String × AuthRefConfig)) :
    Frames.Keeps Store.agents (syncConfigAuthRefs authRefs) := by
  refine Frames.keeps_fold (fun _ entry => ?_) () authRefs
  refine Frames.keeps_bind ?_ fun _ => Frames.keeps_pure ()
  exact Frames.keeps_upsertRow (fun _ _ => rfl) fun _ _ => rfl

/-- The rows of the store are read-only exactly where the configuration has an agent. -/
def Mirrors (config : SeededConfig) (store : Store) : Prop :=
  ∀ row ∈ store.agents.rows, row.readOnly = true ↔ Configured config.agents row.aliasName

theorem openAgentRegistry_returned {config : SeededConfig} {world after : World}
    (ran : openAgentRegistry config world = (.ok (), after)) (name : AgentAlias) :
    (Configured config.agents name →
      ∃ row, after.store.agents.find? name = some row ∧ row.readOnly = true) ∧
    (¬ Configured config.agents name →
      after.store.agents.find? name = world.store.agents.find? name) := by
  obtain ⟨_, middle, refs, agents⟩ := Effect.bind_returned ran
  rw [← (keeps_syncConfigAuthRefs config.authRefs).returned refs]
  exact syncConfigAgents_returned agents name

/-- An opened registry mirrors the configuration exactly when no row was read-only for an alias that
the configuration does not have. Its own agents are protected either way. -/
theorem registry_mirrors_iff {config : SeededConfig} {world after : World}
    (ran : openAgentRegistry config world = (.ok (), after)) :
    (Mirrors config after.store ↔
      ∀ row ∈ world.store.agents.rows, row.readOnly = true → Configured config.agents row.aliasName) ∧
    ∀ name, Configured config.agents name → ∃ row, after.store.agents.find? name = some row ∧
      ∀ action, ensureWritable row action ≠ .ok () := by
  refine ⟨⟨?_, ?_⟩, ?_⟩
  · intro mirrors row member readOnly
    by_contra dropped
    have kept := (openAgentRegistry_returned ran row.aliasName).2 dropped
    have still := ((Table.find?_eq_some _ _ row).mp (kept.trans (Table.find?_self _ row member))).1
    exact dropped ((mirrors row still).mp readOnly)
  · intro owned row member
    obtain ⟨listed, unlisted⟩ := openAgentRegistry_returned ran row.aliasName
    have found := Table.find?_self _ row member
    by_cases configured : Configured config.agents row.aliasName
    · obtain ⟨seeded, same, readOnly⟩ := listed configured
      have equal : row = seeded := Option.some.inj (found.symm.trans same)
      subst equal
      exact iff_of_true readOnly configured
    · have before := (unlisted configured).symm.trans found
      have stored := ((Table.find?_eq_some _ _ row).mp before).1
      exact iff_of_false (fun readOnly => configured (owned row stored readOnly)) configured
  · intro name configured
    obtain ⟨row, found, readOnly⟩ := (openAgentRegistry_returned ran name).1 configured
    refine ⟨row, found, fun action passed => ?_⟩
    rw [ensureWritable_passed passed] at readOnly
    cases readOnly

def localAgent : AgentConfig := ⟨"http://127.0.0.1:8080", [], [], none, ["local"], none, .new⟩

def echoConfig : SeededConfig := ⟨[("echo", localAgent)], []⟩

def opened (config : SeededConfig) (world : World) : World := (openAgentRegistry config world).2

theorem opened_echo : openAgentRegistry echoConfig blankWorld = (.ok (), opened echoConfig blankWorld) := by
  rfl

theorem echo_mirrored : Mirrors echoConfig (opened echoConfig blankWorld).store := by
  apply (registry_mirrors_iff opened_echo).1.mpr
  intro row member
  cases member

-- The agent of an earlier configuration stays protected.
theorem dropped_agent_protected : ¬ ∀ config world after,
    openAgentRegistry config world = (.ok (), after) → Mirrors config after.store := by
  intro claimed
  have mirrors := claimed ⟨[], []⟩ (opened echoConfig blankWorld) _ rfl
  obtain ⟨row, found, readOnly⟩ := (openAgentRegistry_returned opened_echo Artifacts.echoAgent).1
    ⟨("echo", localAgent), List.mem_cons_self, rfl⟩
  have stored := ((Table.find?_eq_some _ _ row).mp found).1
  obtain ⟨_, member, _⟩ := (mirrors row stored).mp readOnly
  cases member

end Missive.ConfigSeeding
