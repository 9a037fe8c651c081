import Missive.ConfigSeeding
import Missive.Interleaving

/-! The cached Agent Card of a background job. The gateway reads the agent without the state lock,
fetches the card, and writes the whole row back under the lock, while the command line edits agents
under the same lock. -/
namespace Missive.CardCaching

open JsonValue KeyedTable Missive.Core Schema Effects Repository AgentRename ConfigSeeding Frames
open Interleaving

/-! The edits of the command line. -/

def optional (name : String) (value : Option String) : List (String × Json) :=
  Artifacts.optionalField name value

def MilliTime.render (time : MilliTime) : String := SecondTime.render ⟨time.millis / 1000⟩

-- `AgentView::from_record`, as it is serialized.
def agentViewJson (record : AgentRecord) : Json :=
  .object (optional "agent_card_etag" record.agentCardEtag ++
    optional "agent_card_fetched_at" (record.agentCardFetchedAt.map SecondTime.render) ++
    optional "agent_card_last_modified" record.agentCardLastModified ++
    [("alias", .string record.aliasName.text)] ++
    optional "auth_ref" record.authRefName ++
    [("base_url", .string record.baseUrl),
      ("binding_preference", .array (record.bindingPreference.map fun name => .string name.text)),
      ("created_at", .string (MilliTime.render record.createdAt)),
      ("interface_urls", .object (record.interfaceUrls.map fun entry => (entry.1.text, .string entry.2))),
      ("metadata", record.metadata.toJson)] ++
    optional "notes" record.notes ++
    [("read_only", .bool record.readOnly), ("source", .string record.source.asStr),
      ("tags", .array (record.tags.map .string)),
      ("updated_at", .string (MilliTime.render record.updatedAt))])

def addPayload (record : AgentRecord) : Json :=
  .object [("alias", .string record.aliasName.text), ("base_url", .string record.baseUrl),
    ("metadata", record.metadata.toJson), ("source", .string record.source.asStr),
    ("tags", .array (record.tags.map .string))]

-- `add_agent`, with the row its arguments describe.
def addAgent (input : AgentUpsert) : Action AgentRecord := do
  ensureAgentAbsent input.aliasName
  let record ← upsertAgent input
  appendAgentEvent "missive.agent.add" (some record.aliasName) (addPayload record)
  pure record

def removeAgent (aliasText : String) : Action Unit := do
  let name ← Effect.lift (Id.new .agentAlias aliasText)
  let record ← getExistingAgent name
  Effect.lift (ensureWritable record "remove")
  let deleted ← deleteAgent name
  if deleted then
    appendAgentEvent "missive.agent.remove" none
      (.object [("alias", .string name.text), ("removed_agent", agentViewJson record)])
  else Effect.raise (MissiveError.storage
    s!"agent {debug name.text} disappeared before it could be removed")

structure AgentCardCacheValidators where
  etag : Option String
  lastModified : Option String

def cacheAgentCard (record : AgentRecord) (rawCard : Json) (validators : AgentCardCacheValidators)
    (fetchedAt : MissiveTimestamp) : Action AgentRecord :=
  upsertAgent { agentUpsertFromRecord record record.aliasName with
    agentCardJson := some rawCard
    agentCardEtag := validators.etag
    agentCardLastModified := validators.lastModified
    agentCardFetchedAt := some fetchedAt }

-- `inspect_agent` and `refresh_agent`, with the card the server answered.
def refreshAgent (aliasText : String) (rawCard : Json) (validators : AgentCardCacheValidators)
    (fetchedAt : MissiveTimestamp) : Action AgentRecord := do
  let name ← Effect.lift (Id.new .agentAlias aliasText)
  let record ← getExistingAgent name
  cacheAgentCard record rawCard validators fetchedAt

-- What a command does to the store while it holds the state lock, in the order of its statements.
inductive Edit where
  | seedAuthRef (name : String) (authRef : AuthRefConfig)
  | seedAgent (aliasText : String) (agent : AgentConfig)
  | add (input : AgentUpsert)
  | remove (aliasText : String)
  | rename (aliasText newAliasText : String)
  | refresh (aliasText : String) (rawCard : Json) (validators : AgentCardCacheValidators)
      (fetchedAt : MissiveTimestamp)

def discard {Result : Type} (action : Action Result) : Action Unit := do
  let _ ← action
  pure ()

def Edit.run : Edit → Action Unit
  | .seedAuthRef name authRef => discard (upsertAuthRef (configAuthRefUpsert name authRef))
  | .seedAgent aliasText agent => syncConfigAgent aliasText agent
  | .add input => discard (addAgent input)
  | .remove aliasText => removeAgent aliasText
  | .rename aliasText newAliasText => discard (renameAgent aliasText newAliasText)
  | .refresh aliasText rawCard validators fetchedAt =>
      discard (refreshAgent aliasText rawCard validators fetchedAt)

def namedAlias (aliasText : String) : List AgentAlias := (Id.new .agentAlias aliasText).toOption.toList

-- The aliases an edit writes, apart from a cached card.
def Edit.aliases : Edit → List AgentAlias
  | .seedAuthRef .. | .refresh .. => []
  | .seedAgent aliasText _ | .remove aliasText => namedAlias aliasText
  | .add input => [input.aliasName]
  | .rename aliasText newAliasText => namedAlias aliasText ++ namedAlias newAliasText

/-! The gateway. -/

def agentUpsertWithCard (record : AgentRecord) (rawCard : Json) (fetchedAt : MissiveTimestamp) :
    AgentUpsert where
  aliasName := record.aliasName
  source := match record.source with
    | .local => .local
    | .configSeed => .configSeed
    | .discovered => .discovered
  baseUrl := record.baseUrl
  interfaceUrls := record.interfaceUrls
  bindingPreference := record.bindingPreference
  authRefName := record.authRefName
  tags := record.tags
  notes := record.notes
  metadata := record.metadata
  agentCardJson := some rawCard
  agentCardEtag := record.agentCardEtag
  agentCardLastModified := record.agentCardLastModified
  agentCardFetchedAt := some fetchedAt
  readOnly := record.readOnly

inductive AgentCardFetchOutcome where
  | fetched (rawJson : Json)
  | notModified

-- A command of the command line, or `resolve_agent_interface` up to the cached card.
inductive Phase where
  | idle
  | editing
  | resolving (name : AgentAlias)
  | fetching (agent : AgentRecord)
  | fetched (agent : AgentRecord) (rawCard : Json) (fetchedAt : MissiveTimestamp)
  | writing (agent : AgentRecord) (rawCard : Json) (fetchedAt : MissiveTimestamp)
  | resolved (agent : AgentRecord)
  | failed (error : MissiveError)

-- What the latest edit of each alias left there is kept beside the store.
structure Shared (Id : Type) where
  world : World
  lock : Option Id
  edited : AgentAlias → Option AgentRecord

/-- The fields of an agent other than its cached card, and the column the store touches itself. -/
def withoutCard (row : AgentRecord) : AgentRecord :=
  { row with agentCardJson := none, agentCardEtag := none, agentCardLastModified := none,
             agentCardFetchedAt := none, updatedAt := ⟨0⟩ }

def stored (world : World) (name : AgentAlias) : Option AgentRecord :=
  (world.store.agents.find? name).map withoutCard

inductive Act where
  | begin
  | edit (edit : Edit)
  | finish
  | read
  | fetch (answer : Except MissiveError AgentCardFetchOutcome) (now : MissiveTimestamp)
  | lock
  | write

section Processes

variable {Id : Type}

def Shared.record (shared : Shared Id) (edit : Edit) (after : World) : Shared Id :=
  { shared with
    world := after
    edited := fun name => if name ∈ edit.aliases then stored after name else shared.edited name }

def notModifiedError (agent : AgentRecord) : MissiveError :=
  MissiveError.protocol
    s!"agent {debug agent.aliasName.text} returned 304 Not Modified without a cached Agent Card"

/-- The next statement of a process. -/
def step (id : Id) (shared : Shared Id) : Phase → Act → Option (Shared Id × Phase)
  | .idle, .begin =>
      if shared.lock.isNone then some ({ shared with lock := some id }, .editing) else none
  | .editing, .edit edit => some (shared.record edit (edit.run shared.world).2, .editing)
  | .editing, .finish => some ({ shared with lock := none }, .idle)
  | .resolving name, .read =>
      match shared.world.store.agents.find? name with
      | none => some (shared, .failed (MissiveError.validation
          s!"agent {debug name.text} is not registered for background job execution"))
      | some agent =>
          if agent.agentCardJson.isSome then some (shared, .resolved agent)
          else some (shared, .fetching agent)
  | .fetching agent, .fetch answer now =>
      match answer with
      | .error error => some (shared, .failed error)
      | .ok .notModified => some (shared, .failed (notModifiedError agent))
      | .ok (.fetched rawJson) => some (shared, .fetched agent rawJson now)
  | .fetched agent rawCard fetchedAt, .lock =>
      if shared.lock.isNone then
        some ({ shared with lock := some id }, .writing agent rawCard fetchedAt)
      else none
  | .writing agent rawCard fetchedAt, .write =>
      match upsertAgent (agentUpsertWithCard agent rawCard fetchedAt) shared.world with
      | (.ok row, world) => some ({ shared with world, lock := none }, .resolved row)
      | (.error error, world) => some ({ shared with world, lock := none }, .failed error)
  | _, _ => none

def Moves (id : Id) (before after : Shared Id × Phase) : Prop :=
  ∃ act, step id before.1 before.2 act = some after

-- Processes of the command line, and gateways that resolve an agent each.
def start (world : World) (resolves : Id → Option AgentAlias) : System Id (Shared Id) Phase :=
  ⟨⟨world, none, stored world⟩, fun id => (resolves id).elim .idle .resolving⟩

end Processes

/-! What one statement leaves of an agent. -/

def agentPart (name : AgentAlias) (store : Store) : Option AgentRecord :=
  (store.agents.find? name).map withoutCard

def afterUpsert (input : AgentUpsert) (world : World) : AgentRecord :=
  withoutCard (input.toRecord (world.clock world.drawn).toMillis
    (world.store.agents.find? input.aliasName))

theorem upsertAgent_part (input : AgentUpsert) (world : World) (name : AgentAlias) :
    (∃ error after, upsertAgent input world = (.error error, after) ∧ after.store = world.store) ∨
    ∃ row after, upsertAgent input world = (.ok row, after) ∧
      agentPart name after.store =
        if name = input.aliasName then some (afterUpsert input world)
        else agentPart name world.store := by
  cases ran : upsertAgent input world with
  | mk outcome after =>
      cases outcome with
      | error error =>
          left
          rcases upsertRow_cases agentsTable _ _ _ _ input.aliasName _ input.toRecord
            (fun _ _ => rfl) world with ⟨_, left, failed, same⟩ | ⟨_, _, wrote⟩
          · have equal := ran.symm.trans failed
            cases equal
            exact ⟨error, after, rfl, same⟩
          · have equal := ran.symm.trans wrote
            cases equal
      | ok row =>
          right
          obtain ⟨shown, moved⟩ := upsertAgent_returned ran
          refine ⟨row, after, rfl, ?_⟩
          have keyed : key row = input.aliasName := by rw [shown]; rfl
          unfold agentPart
          rw [moved, Table.find?_put, keyed]
          by_cases own : name = input.aliasName
          · rw [if_pos own, if_pos own, Option.map_some, shown]
            rfl
          · rw [if_neg own, if_neg own]

theorem keeps_upsertAgent {input : AgentUpsert} {name : AgentAlias} (apart : name ≠ input.aliasName) :
    Keeps (agentPart name) (upsertAgent input) := by
  intro world
  rcases upsertAgent_part input world name with ⟨_, after, failed, same⟩ | ⟨_, after, wrote, shown⟩
  · rw [failed]
    exact congrArg (agentPart name) same
  · rw [wrote]
    rwa [if_neg apart] at shown

theorem keeps_deleteAgent {gone name : AgentAlias} (apart : name ≠ gone) :
    Keeps (agentPart name) (deleteAgent gone) := by
  refine keeps_bind (keeps_readStore _) fun found => ?_
  refine keeps_bind ?_ fun _ => keeps_pure _
  intro world
  unfold Same execute
  split
  · rfl
  · change agentPart name (if found.isSome then withoutAgent world.store gone else world.store) = _
    split
    · simp only [agentPart, withoutAgent]
      rw [Table.find?_filter]
      cases known : world.store.agents.find? name with
      | none => rfl
      | some row =>
          have keyed : row.aliasName = name := Table.find?_key _ known
          simp [Option.filter, keyed, apart]
    · rfl

theorem agentPart_ignoresEvents (name : AgentAlias) : IgnoresEvents (agentPart name) :=
  fun _ _ _ => rfl

theorem keeps_appendAgentEvent (name : AgentAlias) (eventType : String) (subject : Option AgentAlias)
    (payload : Json) : Keeps (agentPart name) (appendAgentEvent eventType subject payload) := by
  refine keeps_bind (keeps_newCliEvent eventType payload) fun event => ?_
  exact keeps_bind (keeps_appendEvent (agentPart_ignoresEvents name) _) fun _ => keeps_pure ()

/-- An input that rewrites the row of a record with another card. -/
structure CardOnly (input : AgentUpsert) (record : AgentRecord) : Prop where
  named : input.aliasName = record.aliasName
  kept : ∀ time existing, withoutCard (input.toRecord time existing) =
    withoutCard { record with createdAt := existing.elim time AgentRecord.createdAt }

theorem cardOnly_part {input : AgentUpsert} {record : AgentRecord} (card : CardOnly input record)
    (world : World) (name : AgentAlias) :
    (∃ error after, upsertAgent input world = (.error error, after) ∧ after.store = world.store) ∨
    ∃ row after, upsertAgent input world = (.ok row, after) ∧
      agentPart name after.store =
        if name = record.aliasName then some (withoutCard { record with
          createdAt := (world.store.agents.find? record.aliasName).elim
            (world.clock world.drawn).toMillis AgentRecord.createdAt })
        else agentPart name world.store := by
  rcases upsertAgent_part input world name with failed | ⟨row, after, wrote, shown⟩
  · exact .inl failed
  · rw [card.named, afterUpsert, card.kept, card.named] at shown
    exact .inr ⟨row, after, wrote, shown⟩

/-! What an edit leaves alone. -/

theorem named_apart {aliasText : String} {name other : AgentAlias} (free : name ∉ namedAlias aliasText)
    (named : Id.new .agentAlias aliasText = .ok other) : name ≠ other := by
  rintro rfl
  exact free (by simp [namedAlias, named, Except.toOption])

-- An action that starts by reading an alias leaves a part alone if the rest does for that alias.
theorem keeps_lift_bind {Result Other : Type} {part : Store → Option AgentRecord}
    {made : Except MissiveError Result} {next : Result → Action Other}
    (rest : ∀ result, made = .ok result → Keeps part (next result)) :
    Keeps part (Effect.lift made >>= next) := by
  cases shown : made with
  | error error => exact keeps_raise error
  | ok result => exact rest result shown

theorem keeps_discard {Result : Type} {part : Store → Option AgentRecord} {action : Action Result}
    (keeps : Keeps part action) : Keeps part (discard action) :=
  keeps_bind keeps fun _ => keeps_pure ()

theorem keeps_ensureAgentAbsent (part : Store → Option AgentRecord) (name : AgentAlias) :
    Keeps part (ensureAgentAbsent name) := by
  refine keeps_bind (keeps_readStore _) fun found => ?_
  cases found with
  | none => exact keeps_pure ()
  | some record => exact keeps_raise _

theorem keeps_getExistingAgent (part : Store → Option AgentRecord) (name : AgentAlias) :
    Keeps part (getExistingAgent name) := by
  refine keeps_bind (keeps_readStore _) fun found => ?_
  cases found with
  | none => exact keeps_raise _
  | some record => exact keeps_pure record

theorem keeps_replaceAgent {record : AgentRecord} {old new name : AgentAlias} (first : name ≠ old)
    (last : name ≠ new) : Keeps (agentPart name) (replaceAgent record old new) := by
  refine keeps_bind (keeps_upsertAgent last) fun written => ?_
  refine keeps_bind (keeps_deleteAgent first) fun deleted => ?_
  cases deleted with
  | true => exact keeps_pure written
  | false => exact keeps_raise _

theorem keeps_renameAgent {aliasText newAliasText : String} {name : AgentAlias}
    (first : name ∉ namedAlias aliasText) (last : name ∉ namedAlias newAliasText) :
    Keeps (agentPart name) (renameAgent aliasText newAliasText) := by
  refine keeps_lift_bind fun old oldNamed => ?_
  refine keeps_lift_bind fun new newNamed => ?_
  refine keeps_bind (keeps_lift _) fun _ => ?_
  refine keeps_bind (keeps_getExistingAgent _ _) fun record => ?_
  refine keeps_bind (keeps_lift _) fun _ => ?_
  refine keeps_bind (keeps_ensureAgentAbsent _ _) fun _ => ?_
  refine keeps_bind ?_ fun renamed => ?_
  · exact keeps_transaction
      (keeps_replaceAgent (named_apart first oldNamed) (named_apart last newNamed))
  · exact keeps_bind (keeps_appendAgentEvent name _ _ _) fun _ => keeps_pure _

theorem keeps_removeAgent {aliasText : String} {name : AgentAlias} (free : name ∉ namedAlias aliasText) :
    Keeps (agentPart name) (removeAgent aliasText) := by
  refine keeps_lift_bind fun gone named => ?_
  refine keeps_bind (keeps_getExistingAgent _ _) fun record => ?_
  refine keeps_bind (keeps_lift _) fun _ => ?_
  refine keeps_bind (keeps_deleteAgent (named_apart free named)) fun deleted => ?_
  cases deleted with
  | true => exact keeps_appendAgentEvent name _ _ _
  | false => exact keeps_raise _

theorem keeps_syncConfigAgent {aliasText : String} {agent : AgentConfig} {name : AgentAlias}
    (free : name ∉ namedAlias aliasText) :
    Keeps (agentPart name) (syncConfigAgent aliasText agent) := by
  refine keeps_lift_bind fun seeded named => ?_
  refine keeps_bind (keeps_readStore _) fun existing => ?_
  refine keeps_lift_bind fun input made => ?_
  refine keeps_bind (keeps_upsertAgent ?_) fun _ => keeps_pure ()
  rw [(configAgentUpsert_made made).1]
  exact named_apart free named

theorem cacheInput_cardOnly (record : AgentRecord) (rawCard : Json)
    (validators : AgentCardCacheValidators) (fetchedAt : MissiveTimestamp) :
    CardOnly { agentUpsertFromRecord record record.aliasName with
      agentCardJson := some rawCard
      agentCardEtag := validators.etag
      agentCardLastModified := validators.lastModified
      agentCardFetchedAt := some fetchedAt } record := ⟨rfl, fun _ _ => rfl⟩

-- A card is written over the row that was read, so only its own fields change.
theorem keeps_refreshAgent (aliasText : String) (rawCard : Json)
    (validators : AgentCardCacheValidators) (fetchedAt : MissiveTimestamp) (name : AgentAlias) :
    Keeps (agentPart name) (refreshAgent aliasText rawCard validators fetchedAt) := by
  refine keeps_lift_bind fun refreshed _ => ?_
  intro world
  cases read : getExistingAgent refreshed world with
  | mk outcome middle =>
      cases outcome with
      | error error =>
          unfold Same
          rw [Effect.bind_error _ _ _ _ _ read]
          have kept := keeps_getExistingAgent (agentPart name) refreshed world
          rwa [read] at kept
      | ok record =>
          unfold Same
          rw [Effect.bind_ok _ _ _ _ _ read]
          obtain ⟨found, rfl⟩ := getExistingAgent_returned read
          have keyed : record.aliasName = refreshed := Table.find?_key _ found
          have card := cacheInput_cardOnly record rawCard validators fetchedAt
          rcases cardOnly_part card middle name with ⟨_, after, failed, same⟩ | ⟨_, after, wrote, shown⟩
          · rw [cacheAgentCard, failed]
            exact congrArg (agentPart name) same
          · rw [cacheAgentCard, wrote]
            subst keyed
            refine shown.trans ?_
            rw [found]
            by_cases own : name = record.aliasName
            · rw [if_pos own, own, agentPart, found]
              rfl
            · rw [if_neg own]

theorem keeps_edit {edit : Edit} {name : AgentAlias} (free : name ∉ edit.aliases) :
    Keeps (agentPart name) edit.run := by
  cases edit with
  | seedAuthRef refName authRef =>
      exact keeps_discard (keeps_upsertRow (fun _ _ => rfl) fun _ _ => rfl)
  | seedAgent aliasText agent => exact keeps_syncConfigAgent free
  | add input =>
      have apart : name ≠ input.aliasName := fun same => free (List.mem_singleton.mpr same)
      refine keeps_discard (keeps_bind (keeps_ensureAgentAbsent _ _) fun _ => ?_)
      refine keeps_bind (keeps_upsertAgent apart) fun record => ?_
      exact keeps_bind (keeps_appendAgentEvent name _ _ _) fun _ => keeps_pure record
  | remove aliasText => exact keeps_removeAgent free
  | rename aliasText newAliasText =>
      rw [Edit.aliases, List.mem_append, not_or] at free
      exact keeps_discard (keeps_renameAgent free.1 free.2)
  | refresh aliasText rawCard validators fetchedAt =>
      exact keeps_discard (keeps_refreshAgent aliasText rawCard validators fetchedAt name)

/-! Runs. -/

/-- Every agent is, apart from its card, what the latest edit of its alias left. -/
def Kept {Id : Type} (shared : Shared Id) : Prop :=
  ∀ name, stored shared.world name = shared.edited name

/-- The stored row is still the one that was read, apart from its card. -/
def Unedited (world : World) (agent : AgentRecord) : Prop :=
  ∃ row, world.store.agents.find? agent.aliasName = some row ∧
    withoutCard row = withoutCard { agent with createdAt := row.createdAt }

theorem withCard_cardOnly (agent : AgentRecord) (rawCard : Json) (fetchedAt : MissiveTimestamp) :
    CardOnly (agentUpsertWithCard agent rawCard fetchedAt) agent := by
  refine ⟨rfl, fun time existing => ?_⟩
  cases source : agent.source <;>
    simp [AgentUpsert.toRecord, agentUpsertWithCard, withoutCard, source]

section Steps

variable {Id : Type} {id : Id} {shared after : Shared Id} {phase next : Phase}

theorem edit_kept (kept : Kept shared) (edit : Edit) :
    Kept (shared.record edit (edit.run shared.world).2) := by
  intro name
  by_cases named : name ∈ edit.aliases
  · simp only [Shared.record, if_pos named]
  · simp only [Shared.record, if_neg named]
    exact (keeps_edit named shared.world).trans (kept name)

theorem write_kept_iff (kept : Kept shared) {agent row : AgentRecord} {rawCard : Json}
    {fetchedAt : MissiveTimestamp} {world : World}
    (wrote : upsertAgent (agentUpsertWithCard agent rawCard fetchedAt) shared.world = (.ok row, world)) :
    Kept ⟨world, (none : Option Id), shared.edited⟩ ↔ Unedited shared.world agent := by
  have written (name : AgentAlias) : stored world name = if name = agent.aliasName then
      some (withoutCard { agent with
        createdAt := (shared.world.store.agents.find? agent.aliasName).elim
          (shared.world.clock shared.world.drawn).toMillis AgentRecord.createdAt })
      else stored shared.world name := by
    rcases cardOnly_part (withCard_cardOnly agent rawCard fetchedAt) shared.world name with
      ⟨_, _, failed, _⟩ | ⟨_, _, again, shown⟩
    · rw [failed] at wrote
      cases wrote
    · rw [again] at wrote
      cases wrote
      exact shown
  constructor
  · intro still
    have same := (written agent.aliasName).symm.trans ((still agent.aliasName).trans (kept agent.aliasName).symm)
    rw [if_pos rfl] at same
    cases found : shared.world.store.agents.find? agent.aliasName with
    | none => simp [stored, found] at same
    | some row =>
        simp only [stored, found, Option.elim_some, Option.map_some, Option.some.injEq] at same
        exact ⟨row, found, same.symm⟩
  · rintro ⟨row, found, same⟩ name
    refine (written name).trans ?_
    by_cases own : name = agent.aliasName
    · rw [if_pos own, found, Option.elim_some, ← same, own, ← kept]
      simp [stored, found]
    · rw [if_neg own]
      exact kept name

theorem step_kept {act : Act} (kept : Kept shared)
    (stepped : step id shared phase act = some (after, next))
    (unedited : ∀ agent rawCard fetchedAt, phase = .writing agent rawCard fetchedAt →
      Unedited shared.world agent) : Kept after := by
  unfold step at stepped
  split at stepped
  · split at stepped
    · cases stepped
      exact kept
    · cases stepped
  · cases stepped
    exact edit_kept kept _
  · cases stepped
    exact kept
  · split at stepped
    · cases stepped
      exact kept
    · split at stepped
      · cases stepped
        exact kept
      · cases stepped
        exact kept
  · split at stepped <;> cases stepped <;> exact kept
  · split at stepped
    · cases stepped
      exact kept
    · cases stepped
  · rename_i agent rawCard fetchedAt
    split at stepped
    · rename_i row world wrote
      cases stepped
      exact (write_kept_iff kept wrote).mpr (unedited agent rawCard fetchedAt rfl)
    · rename_i error world failed
      cases stepped
      intro name
      rcases upsertAgent_part (agentUpsertWithCard agent rawCard fetchedAt) shared.world name with
        ⟨_, _, again, same⟩ | ⟨_, _, again, _⟩
      · rw [again] at failed
        cases failed
        exact (congrArg (agentPart name) same).trans (kept name)
      · rw [again] at failed
        cases failed
  · cases stepped

theorem writing_leaves {act : Act} {agent : AgentRecord} {rawCard : Json}
    {fetchedAt : MissiveTimestamp}
    (stepped : step id shared (.writing agent rawCard fetchedAt) act = some (after, next)) :
    next ≠ .writing agent rawCard fetchedAt := by
  rintro rfl
  cases act with
  | write =>
      simp only [step] at stepped
      split at stepped <;> cases stepped
  | _ => cases stepped

variable [DecidableEq Id]

/-- A step at which a gateway that writes its card meets the row it has read. -/
structure UneditedStep (before after : System Id (Shared Id) Phase) : Prop where
  step : Step Moves before after
  unedited : ∀ id agent rawCard fetchedAt, before.locals id = .writing agent rawCard fetchedAt →
    after.locals id ≠ before.locals id → Unedited before.shared.world agent

theorem run_kept {world : World} {resolves : Id → Option AgentAlias}
    {system : System Id (Shared Id) Phase}
    (run : Relation.ReflTransGen UneditedStep (start world resolves) system) : Kept system.shared := by
  induction run with
  | refl => exact fun _ => rfl
  | tail _ guarded ih =>
      obtain ⟨step, unedited⟩ := guarded
      obtain ⟨id, shared, next, act, stepped⟩ := step
      refine step_kept ih stepped fun agent rawCard fetchedAt writing => ?_
      refine unedited id agent rawCard fetchedAt writing ?_
      rw [writing] at stepped
      rw [turn_own]
      exact fun same => writing_leaves stepped (same.trans writing)

/-- In every run whose gateways write a card over the row they read, each agent stays as its latest
edit left it, and a removed alias stays away. A gateway that writes over another row breaks this. -/
theorem edits_survive_unedited (world : World) (resolves : Id → Option AgentAlias) :
    (∀ system, Relation.ReflTransGen UneditedStep (start world resolves) system →
      ∀ name, stored system.shared.world name = system.shared.edited name) ∧
    ∀ (id : Id) shared agent rawCard fetchedAt after row, Kept shared →
      step id shared (.writing agent rawCard fetchedAt) .write = some (after, .resolved row) →
      (Kept after ↔ Unedited shared.world agent) := by
  constructor
  · intro system run
    exact run_kept run
  · intro id shared agent rawCard fetchedAt after row kept stepped
    simp only [step] at stepped
    split at stepped
    · rename_i written moved wrote
      cases stepped
      exact write_kept_iff kept wrote
    · cases stepped

end Steps

-- The agent is removed between the read of its row and the write of its card.
def removedMeanwhile : List (Bool × Act) :=
  [(true, .read), (true, .fetch (.ok (.fetched .null)) ⟨0⟩), (false, .begin),
    (false, .edit (.remove "echo")), (false, .finish), (true, .lock), (true, .write)]

def resolving : System Bool (Shared Bool) Phase :=
  start (upsertAgent (.new Artifacts.echoAgent "http://127.0.0.1") TaskIsolation.blankWorld).2
    fun id => if id then some Artifacts.echoAgent else none

theorem removed_agent_reappears : ¬ ∀ world resolves (system : System Bool (Shared Bool) Phase),
    Reachable Moves (start world resolves) system → Kept system.shared := by
  intro claimed
  have kept := claimed _ _ _ (takes_reachable (fun id before act => step id before.1 before.2 act)
    removedMeanwhile resolving) Artifacts.echoAgent
  cases kept

end Missive.CardCaching
