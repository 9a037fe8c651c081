import Missive.Contexts
import Missive.NamedForest
import Missive.ReportMoves
import Missive.TaskIsolation

/-! The contexts of a profile as a directory of named entries. Every path that writes contexts
leaves the directory as it was, or lists one more context: the commands one with a free name
and a known parent, all other paths a nameless one without a parent. -/
namespace Missive.ContextDirectory

open JsonValue KeyedTable Missive.Core Schema Effects Repository BackgroundJobs Protocol TaskReports
open NamedForest Frames ReportMoves Contexts
open Broadcast (ensureBcastContext)

variable {Result Other : Type}

def entry (row : ContextRecord) : Entry ContextId String := ⟨row.name, row.parentContextId⟩

def directory (contexts : Table ContextRecord) : Directory ContextId String :=
  fun id => (contexts.find? id).map entry

def Stamped (contexts : Table ContextRecord) : Prop :=
  ∀ id row, contexts.find? id = some row → row.state = .closed → row.closedAt.isSome

theorem directory_eq_none {contexts : Table ContextRecord} {id : ContextId} :
    directory contexts id = none ↔ contexts.find? id = none := Option.map_eq_none_iff

theorem directory_isSome {contexts : Table ContextRecord} {id : ContextId} :
    (directory contexts id).isSome = (contexts.find? id).isSome := Option.isSome_map

theorem nameOf_directory {contexts : Table ContextRecord} {id : ContextId} {row : ContextRecord}
    (found : contexts.find? id = some row) : (directory contexts).nameOf id = row.name := by
  simp [Directory.nameOf, directory, found, entry]

theorem parentOf_directory {contexts : Table ContextRecord} {id : ContextId} {row : ContextRecord}
    (found : contexts.find? id = some row) :
    (directory contexts).parentOf id = row.parentContextId := by
  simp [Directory.parentOf, directory, found, entry]

theorem directory_put (contexts : Table ContextRecord) (row : ContextRecord) (id : ContextId) :
    directory (contexts.put row) id =
      if id = row.contextId then some (entry row) else directory contexts id := by
  unfold directory
  rw [contexts.find?_put row id]
  by_cases same : id = row.contextId
  · rw [if_pos same, if_pos (show id = key row from same)]
    rfl
  · rw [if_neg same, if_neg (show id ≠ key row from same)]

theorem stamped_put {contexts : Table ContextRecord} {row : ContextRecord}
    (here : row.state = .closed → row.closedAt.isSome) (stamped : Stamped contexts) :
    Stamped (contexts.put row) := by
  intro id found shown closed
  rw [contexts.find?_put row id] at shown
  by_cases same : id = key row
  · rw [if_pos same] at shown
    cases shown
    exact here closed
  · rw [if_neg same] at shown
    exact stamped id found shown closed

/-! What one step may do to the contexts. -/

structure Advances (before after : Table ContextRecord) : Prop where
  grows : Grows (directory before) (directory after)
  stamped : Stamped before → Stamped after

structure Implicit (before after : Table ContextRecord) : Prop where
  blank : Blank (directory before) (directory after)
  stamped : Stamped before → Stamped after

def ImplicitStore (before after : Store) : Prop := Implicit before.contexts after.contexts

theorem implicit_grows : Growth ImplicitStore where
  refl := fun _ => ⟨Blank.refl _, id⟩
  trans := fun _ _ _ first last =>
    ⟨first.blank.trans last.blank, fun stamped => last.stamped (first.stamped stamped)⟩

theorem Implicit.advances {before after : Table ContextRecord} (implicit : Implicit before after) :
    Advances before after := ⟨implicit.blank.grows, implicit.stamped⟩

theorem Advances.refl (contexts : Table ContextRecord) : Advances contexts contexts :=
  ⟨Grows.refl _, id⟩

theorem upsertContext_cases (input : ContextUpsert) (world : World) :
    (upsertContext input world).2.store.contexts = world.store.contexts ∨
      ((input.parentContextId.all fun id => (world.store.contexts.find? id).isSome) = true ∧
        ∃ time, (upsertContext input world).2.store.contexts =
          world.store.contexts.put
            (input.toRecord time (world.store.contexts.find? input.contextId))) := by
  rcases upsertRow_cases contextsTable (.ok ()) "upserting context" "context" input.contextId.text
      input.contextId _ input.toRecord (fun _ _ => rfl) world with
    ⟨_, _, failed, same⟩ | ⟨_, accepted, wrote⟩
  · exact Or.inl (by rw [upsertContext, failed, same])
  · refine Or.inr ⟨?_, (world.clock world.drawn).toMillis, by rw [upsertContext, wrote]; rfl⟩
    by_cases self : input.parentContextId = some input.contextId
    · rw [if_pos self] at accepted
      cases accepted
    · rw [if_neg self] at accepted
      by_cases allowed : (world.store.hasAgent input.agentAlias &&
          world.store.hasContext input.parentContextId) = true
      · exact (Bool.and_eq_true_iff.mp allowed).2
      · rw [refuseUnless, if_neg allowed] at accepted
        cases accepted

/-! Contexts that are created on the way. -/

theorem events_apart : IgnoresEvents Store.contexts := fun _ _ _ => rfl

theorem along_apart {action : Action Result} (keeps : Keeps Store.contexts action) :
    Along ImplicitStore action := by
  intro world
  have same : (action world).2.store.contexts = world.store.contexts := keeps world
  unfold Grown ImplicitStore
  rw [same]
  exact implicit_grows.refl world.store

theorem upsertContext_implicit {input : ContextUpsert} {world : World}
    (absent : world.store.contexts.find? input.contextId = none) (nameless : input.name = none)
    (orphan : input.parentContextId = none) (opened : input.state = .open) :
    Grown ImplicitStore world (upsertContext input world).2 := by
  unfold Grown ImplicitStore
  rcases upsertContext_cases input world with same | ⟨_, time, put⟩
  · rw [same]
    exact implicit_grows.refl world.store
  · rw [put]
    constructor
    · intro id
      rw [directory_put]
      by_cases here : id = input.contextId
      · rw [if_pos (show id = (input.toRecord time _).contextId from here), here]
        exact Or.inr ⟨directory_eq_none.mpr absent,
          congrArg some (congrArg₂ Entry.mk nameless orphan)⟩
      · rw [if_neg (show id ≠ (input.toRecord time _).contextId from here)]
        exact Or.inl rfl
    · apply stamped_put
      intro closed
      rw [show (input.toRecord time _).state = input.state from rfl, opened] at closed
      cases closed

theorem along_getContext {next : Option ContextRecord → Action Result} (contextId : ContextId)
    (known : ∀ record, Along ImplicitStore (next (some record)))
    (absent : ∀ world, world.store.contexts.find? contextId = none →
      Grown ImplicitStore world (next none world).2) :
    Along ImplicitStore (getContext contextId >>= next) := by
  intro world
  change Grown ImplicitStore world (next (world.store.contexts.find? contextId) world).2
  cases found : world.store.contexts.find? contextId with
  | some record => exact known record world
  | none => exact absent world found

theorem along_ensureContext (agent : AgentRecord) (contextId : ContextId) :
    Along ImplicitStore (ensureContext agent contextId) := by
  apply along_getContext
  · exact fun _ => along_pure implicit_grows ()
  · intro world absent
    exact implicit_grows.grown_bind (upsertContext_implicit absent rfl rfl rfl)
      fun _ => along_pure implicit_grows ()

theorem along_ensureBcastContext (contextId : ContextId) (group : GroupRecord) :
    Along ImplicitStore (ensureBcastContext contextId group) := by
  apply along_getContext
  · exact fun _ => along_pure implicit_grows false
  · intro world absent
    apply implicit_grows.grown_lift_bind
    intro collective _
    apply implicit_grows.grown_lift_bind
    intro metadata _
    exact implicit_grows.grown_bind (upsertContext_implicit absent rfl rfl rfl)
      fun _ => along_pure implicit_grows true

theorem along_ensureCollectiveContext (contextId : ContextId) (summary : String)
    (recorded : Except MissiveError Metadata) :
    Along ImplicitStore (ensureCollectiveContext contextId summary recorded) := by
  apply along_getContext
  · exact fun _ => along_pure implicit_grows ()
  · intro world absent
    apply implicit_grows.grown_lift_bind
    intro metadata _
    exact implicit_grows.grown_bind (upsertContext_implicit absent rfl rfl rfl)
      fun _ => along_pure implicit_grows ()

theorem along_ensureContextLink (job : GatewayJobUpsert) :
    Along ImplicitStore (ensureContextLink job) := by
  unfold ensureContextLink
  cases job.contextId with
  | none => exact along_pure implicit_grows ()
  | some contextId =>
      apply along_getContext
      · exact fun _ => along_pure implicit_grows ()
      · intro world absent
        exact implicit_grows.grown_bind (upsertContext_implicit absent rfl rfl rfl)
          fun _ => along_pure implicit_grows ()

theorem along_ensureEventContext (event : EventInsert) :
    Along ImplicitStore (ensureEventContext event) := by
  unfold ensureEventContext
  cases event.contextId with
  | none => exact along_pure implicit_grows ()
  | some contextId =>
      apply along_getContext
      · exact fun _ => along_pure implicit_grows ()
      · intro world absent
        exact implicit_grows.grown_bind (upsertContext_implicit absent rfl rfl rfl)
          fun _ => along_pure implicit_grows ()

theorem along_withKnownTask (event : EventInsert) : Along ImplicitStore (withKnownTask event) := by
  unfold withKnownTask
  cases event.taskId with
  | none => exact along_pure implicit_grows event
  | some taskId =>
      apply along_bind implicit_grows (along_readStore implicit_grows _)
      intro known
      cases known with
      | some record => exact along_pure implicit_grows event
      | none => exact along_pure implicit_grows _

theorem along_appendWebhookEvent (event : EventInsert) :
    Along ImplicitStore (appendWebhookEvent event) := by
  apply along_bind implicit_grows
  · exact along_bind implicit_grows (along_ensureEventContext event) fun _ => along_withKnownTask event
  · exact fun linked => along_apart (keeps_appendEvent events_apart linked)

-- Persisting a report writes contexts through `ensure_context` alone.
theorem implicit_allows : AllowsReports ImplicitStore where
  toGrowth := implicit_grows
  context := along_ensureContext
  task := fun input => along_apart (keeps_upsertTask (fun _ _ => rfl) input)
  artifact := fun id build => along_apart (keeps_writeArtifact (fun _ _ => rfl) id build)
  message := fun input => along_apart (keeps_insertMessage (fun _ _ => rfl) input)
  journal := fun journals => along_apart (journals _ Store.contexts events_apart)

/-! The commands. What they ask of the store before they write changes nothing. -/

def AdvancesStore (before after : Store) : Prop := Advances before.contexts after.contexts

theorem advances_quiet_bind {first : Action Result} {next : Result → Action Other} {world : World}
    (quiet : Keeps id first)
    (tail : ∀ result middle, first world = (.ok result, middle) → middle.store = world.store →
      Grown AdvancesStore middle (next result middle).2) :
    Grown AdvancesStore world ((first >>= next) world).2 := by
  have same : (first world).2.store = world.store := quiet world
  rw [Effect.bind_run]
  cases shown : first world with
  | mk outcome middle =>
      rw [shown] at same
      cases outcome with
      | ok result =>
          have later := tail result middle shown same
          unfold Grown at later ⊢
          rwa [same] at later
      | error error =>
          unfold Grown
          rw [same]
          exact Advances.refl _

theorem upsertContext_advances {input : ContextUpsert} {world : World}
    (absent : world.store.contexts.find? input.contextId = none)
    (free : ∀ name, input.name = some name → ∀ row ∈ world.store.contexts.rows,
      row.name ≠ some name)
    (opened : input.state = .open) :
    Grown AdvancesStore world (upsertContext input world).2 := by
  unfold Grown AdvancesStore
  rcases upsertContext_cases input world with same | ⟨known, time, put⟩
  · rw [same]
    exact Advances.refl _
  · rw [put]
    have adds : Adds input.contextId ⟨input.name, input.parentContextId⟩
        (directory world.store.contexts) (directory (world.store.contexts.put
          (input.toRecord time (world.store.contexts.find? input.contextId)))) := by
      constructor
      · exact directory_eq_none.mpr absent
      · rw [directory_put]
        exact if_pos rfl
      · intro other apart
        rw [directory_put]
        exact if_neg apart
      · intro name named other
        cases found : world.store.contexts.find? other with
        | none => simp [Directory.nameOf, directory, found]
        | some row =>
            rw [nameOf_directory found]
            exact free name named row ((Table.find?_eq_some _ _ _).mp found).1
      · intro parent under
        rw [show input.parentContextId = some parent from under] at known
        rw [directory_isSome]
        exact known
    refine ⟨adds.grows, stamped_put ?_⟩
    intro closed
    rw [show (input.toRecord time _).state = input.state from rfl, opened] at closed
    cases closed

-- A row that is written again under its name and parent.
theorem upsertContext_rewrites {input : ContextUpsert} {row : ContextRecord} {world : World}
    (known : world.store.contexts.find? input.contextId = some row) (named : input.name = row.name)
    (under : input.parentContextId = row.parentContextId) (stamped : input.closedAt.isSome) :
    Grown AdvancesStore world (upsertContext input world).2 := by
  unfold Grown AdvancesStore
  rcases upsertContext_cases input world with same | ⟨_, time, put⟩
  · rw [same]
    exact Advances.refl _
  · rw [put]
    have same : directory (world.store.contexts.put
        (input.toRecord time (world.store.contexts.find? input.contextId))) =
        directory world.store.contexts := by
      funext id
      rw [directory_put]
      by_cases here : id = input.contextId
      · rw [if_pos (show id = (input.toRecord time _).contextId from here), here, directory, known]
        exact congrArg some (congrArg₂ Entry.mk named under)
      · exact if_neg here
    refine ⟨same ▸ Grows.refl _, stamped_put ?_⟩
    intro _
    change (input.closedAt.map MissiveTimestamp.toRfc3339).isSome = true
    rw [Option.isSome_map]
    exact stamped

theorem quiet_parseOrGenerateContextId (id' : Option String) :
    Keeps id (parseOrGenerateContextId id') := by
  cases id' with
  | some value => exact keeps_lift _
  | none => exact keeps_bind keeps_newMessageId fun _ => keeps_lift _

theorem quiet_ensureContextAbsent (contextId : ContextId) :
    Keeps id (ensureContextAbsent contextId) := by
  apply keeps_bind (keeps_readStore _)
  intro known
  cases known with
  | some record => exact keeps_raise _
  | none => exact keeps_pure ()

theorem ensureContextAbsent_returned {contextId : ContextId} {world after : World}
    (ran : ensureContextAbsent contextId world = (.ok (), after)) :
    world.store.contexts.find? contextId = none := by
  obtain ⟨known, middle, read, rest⟩ := Effect.bind_returned ran
  cases read
  cases found : world.store.contexts.find? contextId with
  | none => rfl
  | some record =>
      simp only [found] at rest
      cases rest

theorem quiet_ensureContextNameAvailable (name : Option String) (except : Option ContextId) :
    Keeps id (ensureContextNameAvailable name except) := by
  cases name with
  | none => exact keeps_pure ()
  | some name =>
      apply keeps_bind (keeps_readStore _)
      intro duplicate
      cases duplicate with
      | some context => exact keeps_raise _
      | none => exact keeps_pure ()

theorem ensureContextNameAvailable_returned {name : Option String} {world after : World}
    (ran : ensureContextNameAvailable name none world = (.ok (), after)) :
    ∀ text, name = some text → ∀ row ∈ world.store.contexts.rows, row.name ≠ some text := by
  intro text named row member same
  subst named
  obtain ⟨duplicate, middle, read, rest⟩ := Effect.bind_returned ran
  cases read
  have listed : row ∈ contextsNamed world.store text :=
    List.mem_filter.mpr ⟨member, decide_eq_true same⟩
  cases found : (contextsNamed world.store text).find? fun _ => true with
  | none => exact absurd rfl (List.find?_eq_none.mp found row listed)
  | some context =>
      simp only [Option.all_none, found] at rest
      cases rest

theorem quiet_resolveOptionalAgent (agent : Option String) :
    Keeps id (resolveOptionalAgent agent) := by
  cases agent with
  | none => exact keeps_pure none
  | some agent =>
      apply keeps_bind (keeps_lift _)
      intro aliasName
      apply keeps_bind
      · apply keeps_bind (keeps_readStore _)
        intro found
        cases found with
        | some record => exact keeps_pure record
        | none => exact keeps_raise _
      · exact fun _ => keeps_pure _

theorem createContext_advances (fromStr : String → Option Json) (args : ContextCreateArgs)
    (world : World) : Grown AdvancesStore world (createContext fromStr args world).2 := by
  apply advances_quiet_bind (quiet_parseOrGenerateContextId _)
  intro contextId parsed _ parsedSame
  apply advances_quiet_bind (quiet_ensureContextAbsent _)
  intro _ checked absent checkedSame
  apply advances_quiet_bind (keeps_lift _)
  intro name named _ namedSame
  apply advances_quiet_bind (quiet_ensureContextNameAvailable _ _)
  intro _ offered available offeredSame
  apply advances_quiet_bind (quiet_resolveOptionalAgent _)
  intro agentAlias found _ foundSame
  apply advances_quiet_bind (keeps_lift _)
  intro summary told _ toldSame
  apply advances_quiet_bind (keeps_lift _)
  intro metadata last _ lastSame
  have offeredStore : last.store = named.store := by
    rw [lastSame, toldSame, foundSame, offeredSame]
  have checkedStore : last.store = parsed.store := by
    rw [offeredStore, namedSame, checkedSame]
  apply upsertContext_advances
  · rw [checkedStore]
    exact ensureContextAbsent_returned absent
  · rw [offeredStore]
    exact ensureContextNameAvailable_returned available
  · rfl

theorem quiet_resolveContextSelector (selector : String) :
    Keeps id (resolveContextSelector selector) := by
  apply keeps_bind (keeps_readStore _)
  intro known
  cases known with
  | some record => exact keeps_pure record
  | none =>
      apply keeps_bind (keeps_readStore _)
      exact fun named => keeps_lift _

theorem contextById_found {store : Store} {selector : String} {record : ContextRecord}
    (found : contextById store selector = some record) :
    store.contexts.find? record.contextId = some record := by
  unfold contextById at found
  cases made : Id.new .contextId selector with
  | ok contextId =>
      simp only [made] at found
      exact Table.find?_self _ record ((Table.find?_eq_some _ _ _).mp found).1
  | error error =>
      simp only [made] at found
      cases found

theorem onlyMatch_returned {selector : String} {named : List ContextRecord} {record : ContextRecord}
    (chosen : onlyMatch selector named = .ok record) : named = [record] := by
  match named with
  | [] => cases chosen
  | [only] =>
      cases chosen
      rfl
  | first :: second :: rest => cases chosen

theorem resolveContextSelector_returned {selector : String} {record : ContextRecord}
    {world after : World} (ran : resolveContextSelector selector world = (.ok record, after)) :
    world.store.contexts.find? record.contextId = some record := by
  obtain ⟨known, middle, read, rest⟩ := Effect.bind_returned ran
  cases read
  cases found : contextById world.store selector with
  | some other =>
      simp only [found] at rest
      cases rest
      exact contextById_found found
  | none =>
      simp only [found] at rest
      obtain ⟨named, last, listed, chosen⟩ := Effect.bind_returned rest
      cases listed
      have only : contextsNamed world.store selector = [record] :=
        onlyMatch_returned (Prod.mk.inj chosen).1
      have member : record ∈ contextsNamed world.store selector := by
        rw [only]
        exact List.mem_singleton_self record
      exact Table.find?_self _ record (List.mem_filter.mp member).1

theorem quiet_forkedAgent (agent : Option String) (parent : ContextRecord) :
    Keeps id (forkedAgent agent parent) := by
  cases agent with
  | none => exact keeps_pure _
  | some agent => exact quiet_resolveOptionalAgent (some agent)

theorem quiet_recordParentMetadata (metadata : Metadata) (parent : ContextRecord) :
    Keeps id (recordParentMetadata metadata parent) := by
  apply keeps_bind (keeps_lift _)
  intro linked
  apply keeps_bind (keeps_lift _)
  intro named
  exact keeps_bind keeps_nowUtc fun _ => keeps_lift _

theorem quiet_closingTime (record : ContextRecord) : Keeps id (closingTime record) := by
  unfold closingTime
  cases record.closedAt with
  | some time => exact keeps_pure _
  | none => exact keeps_nowUtc

theorem forkContext_advances (fromStr : String → Option Json) (args : ContextForkArgs)
    (world : World) : Grown AdvancesStore world (forkContext fromStr args world).2 := by
  apply advances_quiet_bind (quiet_resolveContextSelector _)
  intro parent resolved _ _
  apply advances_quiet_bind (quiet_parseOrGenerateContextId _)
  intro childId parsed _ _
  apply advances_quiet_bind (quiet_ensureContextAbsent _)
  intro _ checked absent checkedSame
  apply advances_quiet_bind (keeps_lift _)
  intro name named _ namedSame
  apply advances_quiet_bind (quiet_ensureContextNameAvailable _ _)
  intro _ offered available offeredSame
  apply advances_quiet_bind (quiet_forkedAgent _ _)
  intro agentAlias found _ foundSame
  apply advances_quiet_bind (keeps_lift _)
  intro summary told _ toldSame
  apply advances_quiet_bind (keeps_lift _)
  intro given read _ readSame
  apply advances_quiet_bind (quiet_recordParentMetadata _ _)
  intro metadata last _ lastSame
  have offeredStore : last.store = named.store := by
    rw [lastSame, readSame, toldSame, foundSame, offeredSame]
  have checkedStore : last.store = parsed.store := by
    rw [offeredStore, namedSame, checkedSame]
  apply upsertContext_advances
  · rw [checkedStore]
    exact ensureContextAbsent_returned absent
  · rw [offeredStore]
    exact ensureContextNameAvailable_returned available
  · rfl

theorem closeContext_advances (args : ContextCloseArgs) (world : World) :
    Grown AdvancesStore world (closeContext args world).2 := by
  apply advances_quiet_bind (quiet_resolveContextSelector _)
  intro record resolved selected resolvedSame
  apply advances_quiet_bind (keeps_lift _)
  intro summary told _ toldSame
  apply advances_quiet_bind (quiet_closingTime _)
  intro closedAt last _ lastSame
  have known : last.store.contexts.find? record.contextId = some record := by
    rw [lastSame, toldSame, resolvedSame]
    exact resolveContextSelector_returned selected
  exact upsertContext_rewrites known rfl rfl rfl

/-! Runs. -/

-- What an action may do to the contexts without being about them: their agents may change.
def outline (store : Store) (contextId : ContextId) :
    Option (Entry ContextId String × ContextState × Option SecondTime) :=
  (store.contexts.find? contextId).map fun row => (entry row, row.state, row.closedAt)

inductive Step where
  | create (fromStr : String → Option Json) (args : ContextCreateArgs)
  | fork (fromStr : String → Option Json) (args : ContextForkArgs)
  | close (args : ContextCloseArgs)
  | report (codec : Codec) (agent : AgentRecord) (operation : Operation)
  | bcast (contextId : ContextId) (group : GroupRecord)
  | reduce (contextId : ContextId) (group : GroupRecord)
  | gather (contextId : ContextId) (group : GroupRecord)
  | jobStart (job : GatewayJobUpsert)
  | webhook (event : EventInsert)
  | other (action : Action Unit) (apart : Keeps outline action)

def Step.run : Step → Action Unit
  | .create fromStr args => ignoreResult (createContext fromStr args)
  | .fork fromStr args => ignoreResult (forkContext fromStr args)
  | .close args => ignoreResult (closeContext args)
  | .report codec agent operation => operation.run codec agent
  | .bcast contextId group => ignoreResult (ensureBcastContext contextId group)
  | .reduce contextId group => ensureReduceContext contextId group
  | .gather contextId group => ensureGatherContext contextId group
  | .jobStart job => ensureContextLink job
  | .webhook event => ignoreResult (appendWebhookEvent event)
  | .other action _ => action

-- A step that fails leaves what it wrote before; the next one starts from there.
def runSteps (steps : List Step) (world : World) : World :=
  steps.foldl (fun world step => (step.run world).2) world

theorem ignoreResult_state (action : Action Result) (world : World) :
    (ignoreResult action world).2 = (action world).2 := by
  unfold ignoreResult
  rw [Effect.bind_run]
  cases action world with
  | mk outcome after =>
      cases outcome with
      | ok result => rfl
      | error error => rfl

theorem directory_outline (store : Store) (id : ContextId) :
    directory store.contexts id = (outline store id).map Prod.fst := by
  simp only [directory, outline, Option.map_map, Function.comp_def]

theorem apart_advances {action : Action Unit} (apart : Keeps outline action) (world : World) :
    Grown AdvancesStore world (action world).2 := by
  have same : outline (action world).2.store = outline world.store := apart world
  have listed : directory (action world).2.store.contexts = directory world.store.contexts := by
    funext id
    rw [directory_outline, directory_outline, same]
  constructor
  · rw [listed]
    exact Grows.refl _
  · intro stamped id row found closed
    have shown : outline world.store id = some (entry row, row.state, row.closedAt) := by
      rw [← same, outline, found]
      rfl
    cases old : world.store.contexts.find? id with
    | none => simp [outline, old] at shown
    | some first =>
        simp only [outline, old, Option.map_some, Option.some.injEq, Prod.mk.injEq] at shown
        rw [← shown.2.2]
        exact stamped id first old (shown.2.1.trans closed)

-- Such are the registration and the removal of an agent.
theorem registering_apart (input : AgentUpsert) : Keeps outline (ignoreResult (upsertAgent input)) := by
  apply keeps_bind
  · exact keeps_upsertRow (fun _ _ => rfl) (fun _ _ => rfl)
  · exact fun _ => keeps_pure ()

/-- What one step does to the directory, whatever its outcome. -/
theorem step_advances (step : Step) (world : World) :
    Advances world.store.contexts (step.run world).2.store.contexts := by
  cases step with
  | create fromStr args =>
      rw [Step.run, ignoreResult_state]
      exact createContext_advances fromStr args world
  | fork fromStr args =>
      rw [Step.run, ignoreResult_state]
      exact forkContext_advances fromStr args world
  | close args =>
      rw [Step.run, ignoreResult_state]
      exact closeContext_advances args world
  | report codec agent operation =>
      exact (along_run implicit_allows codec agent operation world).advances
  | bcast contextId group =>
      rw [Step.run, ignoreResult_state]
      exact (along_ensureBcastContext contextId group world).advances
  | reduce contextId group => exact (along_ensureCollectiveContext contextId _ _ world).advances
  | gather contextId group => exact (along_ensureCollectiveContext contextId _ _ world).advances
  | jobStart job => exact (along_ensureContextLink job world).advances
  | webhook event =>
      rw [Step.run, ignoreResult_state]
      exact (along_appendWebhookEvent event world).advances
  | other action apart => exact apart_advances apart world

structure Ordered (contexts : Table ContextRecord) : Prop where
  sound : Sound (directory contexts)
  stamped : Stamped contexts

theorem step_ordered (step : Step) {world : World} (ordered : Ordered world.store.contexts) :
    Ordered (step.run world).2.store.contexts :=
  have advances := step_advances step world
  ⟨advances.grows.sound ordered.sound, advances.stamped ordered.stamped⟩

theorem run_ordered (steps : List Step) {world : World} (ordered : Ordered world.store.contexts) :
    Ordered (runSteps steps world).store.contexts := by
  induction steps generalizing world with
  | nil => exact ordered
  | cons step rest ih => exact ih (step_ordered step ordered)

theorem empty_ordered : Ordered Store.empty.contexts where
  sound := empty_sound
  stamped := by
    intro id row found
    cases found

/-! What that says about the rows. -/

def IsParent (contexts : Table ContextRecord) (parent child : ContextId) : Prop :=
  ∃ row, contexts.find? child = some row ∧ row.parentContextId = some parent

-- The ancestor that many parents up.
def ancestor (contexts : Table ContextRecord) : Nat → ContextId → Option ContextId
  | 0, id => some id
  | steps + 1, id =>
      ((contexts.find? id).bind ContextRecord.parentContextId).bind (ancestor contexts steps)

/-- Names tell the contexts apart, the parents are a forest, and what is closed says when. -/
structure WellKept (contexts : Table ContextRecord) : Prop where
  names : ∀ first ∈ contexts.rows, ∀ last ∈ contexts.rows, ∀ name, first.name = some name →
    last.name = some name → first = last
  parents : ∀ row ∈ contexts.rows, ∀ parent, row.parentContextId = some parent →
    ∃ above ∈ contexts.rows, above.contextId = parent
  acyclic : ∀ id, ¬ Relation.TransGen (IsParent contexts) id id
  ends : ∀ id, ∃ steps, ancestor contexts steps id = none
  stamped : ∀ row ∈ contexts.rows, row.state = .closed → row.closedAt.isSome

/-- No context changes its name or its parent, and a new one lies under a context that was there. -/
structure KeepsPlaces (before after : Table ContextRecord) : Prop where
  kept : ∀ row ∈ before.rows, ∃ now ∈ after.rows,
    now.contextId = row.contextId ∧ now.name = row.name ∧ now.parentContextId = row.parentContextId
  born : ∀ row ∈ after.rows, (∀ old ∈ before.rows, old.contextId ≠ row.contextId) →
    ∀ parent, row.parentContextId = some parent → ∃ above ∈ before.rows, above.contextId = parent

theorem isParent_under {contexts : Table ContextRecord} {parent child : ContextId} :
    IsParent contexts parent child ↔ (directory contexts).Under parent child := by
  unfold IsParent Directory.Under Directory.parentOf directory
  cases contexts.find? child with
  | none => simp
  | some row => simp [entry]

theorem ancestor_climb (contexts : Table ContextRecord) (steps : Nat) (id : ContextId) :
    ancestor contexts steps id = (directory contexts).climb steps id := by
  induction steps generalizing id with
  | zero => rfl
  | succ steps ih =>
      simp only [ancestor, Directory.climb, Directory.parentOf, directory, Option.bind_map]
      rw [show ancestor contexts steps = (directory contexts).climb steps from funext ih]
      rfl

theorem listed_iff {contexts : Table ContextRecord} {id : ContextId} :
    (contexts.find? id).isSome ↔ ∃ row ∈ contexts.rows, row.contextId = id := by
  rw [Option.isSome_iff_exists]
  exact exists_congr fun row => contexts.find?_eq_some id row

theorem Ordered.wellKept {contexts : Table ContextRecord} (ordered : Ordered contexts) :
    WellKept contexts where
  names := by
    intro first firstStored last lastStored name firstNamed lastNamed
    have firstFound := contexts.find?_self first firstStored
    have lastFound := contexts.find?_self last lastStored
    have same : key first = key last := ordered.sound.names _ _ name
      ((nameOf_directory firstFound).trans firstNamed) ((nameOf_directory lastFound).trans lastNamed)
    exact contexts.unique firstStored lastStored same
  parents := by
    intro row stored parent under
    have known := ordered.sound.parents parent row.contextId
      ((parentOf_directory (contexts.find?_self row stored)).trans under)
    rw [directory_isSome] at known
    exact listed_iff.mp known
  acyclic := by
    intro id cycle
    apply ordered.sound.acyclic id
    exact Relation.TransGen.mono (fun _ _ => isParent_under.mp) id id cycle
  ends := by
    intro id
    obtain ⟨steps, ended⟩ := ordered.sound.climb_ends id
    exact ⟨steps, (ancestor_climb contexts steps id).trans ended⟩
  stamped := fun row stored => ordered.stamped row.contextId row (contexts.find?_self row stored)

theorem Advances.keepsPlaces {before after : Table ContextRecord} (advances : Advances before after) :
    KeepsPlaces before after where
  kept := by
    intro row stored
    have shown : directory before row.contextId = some (entry row) := by
      rw [directory, show before.find? row.contextId = some row from before.find?_self row stored]
      rfl
    have still := advances.grows.kept _ _ shown
    obtain ⟨now, found, same⟩ := Option.map_eq_some_iff.mp still
    obtain ⟨member, named⟩ := (after.find?_eq_some _ now).mp found
    exact ⟨now, member, named, congrArg Entry.name same, congrArg Entry.parent same⟩
  born := by
    intro row stored fresh parent under
    have absent : directory before row.contextId = none := by
      rw [directory_eq_none]
      cases found : before.find? row.contextId with
      | none => rfl
      | some old =>
          obtain ⟨member, same⟩ := (before.find?_eq_some _ old).mp found
          exact absurd same (fresh old member)
    have known := advances.grows.parents parent row.contextId absent
      ((parentOf_directory (after.find?_self row stored)).trans under)
    rw [directory_isSome] at known
    exact listed_iff.mp known

/-- After any run from the empty store the contexts are well kept, and the step after it leaves
every context its place. -/
theorem context_directory (world : World) (blank : world.store = Store.empty) (steps : List Step) :
    WellKept (runSteps steps world).store.contexts ∧
      ∀ step : Step, KeepsPlaces (runSteps steps world).store.contexts
        (step.run (runSteps steps world)).2.store.contexts := by
  have ordered : Ordered (runSteps steps world).store.contexts :=
    run_ordered steps (blank ▸ empty_ordered)
  exact ⟨ordered.wellKept, fun step => (step_advances step _).keepsPlaces⟩

-- A context, a fork of it, and the fork closed.
def planningSteps : List Step :=
  [.other (ignoreResult (upsertAgent (AgentUpsert.new Artifacts.echoAgent "http://127.0.0.1")))
      (registering_apart _),
    .create (fun _ => none) ⟨some "c-1", some "Planning round", some "echo", some "Initial plan", []⟩,
    .fork (fun _ => none) ⟨"Planning round", some "c-2", some "Planning follow-up", none, none, []⟩,
    .close ⟨"Planning follow-up", some "Closed after review"⟩]

theorem context_directory_planning :
    ((runSteps planningSteps TaskIsolation.blankWorld).store.contexts.rows.map fun row =>
        (row.contextId.text, row.parentContextId.map Id.text, row.closedAt.isSome)) =
      [("c-1", none, false), ("c-2", some "c-1", true)] ∧
    WellKept (runSteps planningSteps TaskIsolation.blankWorld).store.contexts :=
  ⟨by decide, (context_directory TaskIsolation.blankWorld rfl planningSteps).1⟩

end Missive.ContextDirectory
