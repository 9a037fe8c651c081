import Mathlib.Data.Multiset.ZeroCons
import Missive.Repository

/-! `missive agent rename`. The command inserts the agent under its new alias and
deletes the old row, so the rows that referred to it meet the actions their
foreign keys take on a deletion. What a renaming should leave is stated table by
table, up to the order of rows and the `updated_at` columns. -/
namespace Missive.AgentRename

open JsonValue KeyedTable Missive.Core Schema Effects Repository

def ensureWritable (record : AgentRecord) (action : String) : Except MissiveError Unit :=
  if record.readOnly then
    .error ((MissiveError.validation
      s!"agent {debug record.aliasName.text} is read-only and cannot be {action}d").withHelp
      "Config-seeded agents come from the loaded missive config; edit the config file instead.")
  else .ok ()

def ensureAgentAbsent (name : AgentAlias) : Action Unit := do
  let found ← getAgent name
  match found with
  | some record =>
      let detail :=
        if record.readOnly then "a read-only config-seeded entry" else "an existing local entry"
      Effect.raise ((MissiveError.validation
        s!"agent alias {debug name.text} already exists as {detail}").withHelp
          "Choose a different alias or remove/rename the existing writable entry.")
  | none => pure ()

def agentUpsertFromRecord (record : AgentRecord) (name : AgentAlias) : AgentUpsert where
  aliasName := name
  source := record.source
  baseUrl := record.baseUrl
  interfaceUrls := record.interfaceUrls
  bindingPreference := record.bindingPreference
  authRefName := record.authRefName
  tags := record.tags
  notes := record.notes
  metadata := record.metadata
  agentCardJson := record.agentCardJson
  agentCardEtag := record.agentCardEtag
  agentCardLastModified := record.agentCardLastModified
  agentCardFetchedAt := record.agentCardFetchedAt.map SecondTime.parse
  readOnly := record.readOnly

def appendAgentEvent (eventType : String) (name : Option AgentAlias) (payload : Json) :
    Action Unit := do
  let event ← newCliEvent eventType payload
  let _ ← appendEvent { event with agentAlias := name }
  pure ()

def differentAliases (old new : AgentAlias) : Except MissiveError Unit :=
  if old = new then
    .error ((MissiveError.validation "agent rename requires a different new alias").withHelp
      "Choose a new alias that does not match the current alias.")
  else .ok ()

def replaceAgent (oldRecord : AgentRecord) (old new : AgentAlias) : Action AgentRecord := do
  let record ← upsertAgent { agentUpsertFromRecord oldRecord new with readOnly := false }
  let deleted ← deleteAgent old
  if deleted then pure record
  else Effect.raise (MissiveError.storage
    s!"agent {debug old.text} disappeared before it could be renamed")

def renamePayload (old : AgentAlias) (record : AgentRecord) : Json :=
  .object [("alias", .string record.aliasName.text), ("base_url", .string record.baseUrl),
    ("previous_alias", .string old.text), ("source", .string record.source.asStr)]

def renameAgent (aliasText newAliasText : String) : Action AgentRecord := do
  let old ← Effect.lift (Id.new .agentAlias aliasText)
  let new ← Effect.lift (Id.new .agentAlias newAliasText)
  Effect.lift (differentAliases old new)
  let oldRecord ← getExistingAgent old
  Effect.lift (ensureWritable oldRecord "rename")
  ensureAgentAbsent new
  let record ← transaction (replaceAgent oldRecord old new)
  appendAgentEvent "missive.agent.rename" (some record.aliasName) (renamePayload old record)
  pure record

/-! What a successful run does to the store. -/

theorem ensureAgentAbsent_returned {name : AgentAlias} {world after : World}
    (ran : ensureAgentAbsent name world = (.ok (), after)) :
    world.store.agents.find? name = none ∧ after = world := by
  cases shown : world.store.agents.find? name with
  | none =>
      simp only [ensureAgentAbsent, getAgent, readStore, Effect.bind_run, shown] at ran
      cases ran
      exact ⟨rfl, rfl⟩
  | some row =>
      simp only [ensureAgentAbsent, getAgent, readStore, Effect.bind_run, shown] at ran
      cases ran

theorem ensureWritable_passed {record : AgentRecord} {action : String} {result : Unit}
    (passed : ensureWritable record action = .ok result) : record.readOnly = false := by
  cases shown : record.readOnly with
  | false => rfl
  | true =>
      rw [ensureWritable, if_pos shown] at passed
      cases passed

theorem differentAliases_passed {old new : AgentAlias} {result : Unit}
    (passed : differentAliases old new = .ok result) : old ≠ new := by
  intro same
  rw [differentAliases, if_pos same] at passed
  cases passed

theorem execute_returned {action : String} {refused : Store → Option String}
    {write : Store → Store} {world after : World}
    (ran : execute action refused write world = (.ok (), after)) :
    refused world.store = none ∧ after = world.withStore (write world.store) := by
  unfold execute at ran
  cases shown : refused world.store with
  | some error =>
      rw [shown] at ran
      cases ran
  | none =>
      rw [shown] at ran
      cases ran
      exact ⟨rfl, rfl⟩

theorem deleteAgent_returned {name : AgentAlias} {world after : World}
    (ran : deleteAgent name world = (.ok true, after)) :
    (∀ row ∈ world.store.tasks.rows, row.agentAlias ≠ name) ∧
      after.store = withoutAgent world.store name := by
  obtain ⟨found, start, looked, rest⟩ := Effect.bind_returned ran
  obtain ⟨shown, unmoved⟩ := Prod.mk.inj looked
  subst unmoved
  obtain ⟨_, middle, executed, last⟩ := Effect.bind_returned rest
  obtain ⟨accepted, same⟩ := execute_returned executed
  obtain ⟨present, moved⟩ := Prod.mk.inj last
  have known : found.isSome = true := Except.ok.inj present
  subst moved
  refine ⟨?_, ?_⟩
  · have free : (world.store.tasks.rows.all fun row => row.agentAlias ≠ name) = true := by
      cases found with
      | none => cases known
      | some row =>
          simp only [refuseUnless, Option.isNone_some, Bool.false_or] at accepted
          split at accepted
          · assumption
          · cases accepted
    intro row member
    exact of_decide_eq_true (List.all_eq_true.mp free row member)
  · rw [same]
    simp only [World.withStore_store, known, if_true]

-- The row the command writes for the new alias.
def renamedRecord (oldRecord : AgentRecord) (new : AgentAlias) (now : MilliTime) : AgentRecord :=
  { oldRecord with aliasName := new, createdAt := now, updatedAt := now }

theorem toRecord_renamed (oldRecord : AgentRecord) (new : AgentAlias) (now : MilliTime)
    (writable : oldRecord.readOnly = false) :
    AgentUpsert.toRecord { agentUpsertFromRecord oldRecord new with readOnly := false } now none =
      renamedRecord oldRecord new now := by
  have fetched : (oldRecord.agentCardFetchedAt.map SecondTime.parse).map MissiveTimestamp.toRfc3339 =
      oldRecord.agentCardFetchedAt := by
    cases oldRecord.agentCardFetchedAt with
    | none => rfl
    | some time => simp [parse_toRfc3339]
  simp [AgentUpsert.toRecord, agentUpsertFromRecord, renamedRecord, fetched, writable]

theorem replaceAgent_returned {oldRecord record : AgentRecord} {old new : AgentAlias}
    {world after : World} (absent : world.store.agents.find? new = none)
    (writable : oldRecord.readOnly = false)
    (ran : replaceAgent oldRecord old new world = (.ok record, after)) :
    record = renamedRecord oldRecord new (world.clock world.drawn).toMillis ∧
      (∀ row ∈ world.store.tasks.rows, row.agentAlias ≠ old) ∧
      after.store = withoutAgent
        { world.store with agents := world.store.agents.put record } old := by
  obtain ⟨inserted, middle, upserted, rest⟩ := Effect.bind_returned ran
  obtain ⟨shown, moved⟩ := upsertAgent_returned upserted
  obtain ⟨deleted, last, removed, finished⟩ := Effect.bind_returned rest
  cases deleted with
  | false => cases finished
  | true =>
      cases finished
      obtain ⟨free, stores⟩ := deleteAgent_returned removed
      have row : record = renamedRecord oldRecord new (world.clock world.drawn).toMillis := by
        rw [shown, ← toRecord_renamed oldRecord new _ writable, ← absent]
        rfl
      rw [moved] at free stores
      exact ⟨row, free, stores⟩

theorem newCliEvent_returned {eventType : String} {payload : Json} {event : EventInsert}
    {world after : World} (made : newCliEvent eventType payload world = (.ok event, after)) :
    event.eventType = eventType ∧ after.store = world.store := by
  obtain ⟨id, middle, numbered, built⟩ := Effect.bind_returned made
  obtain ⟨_, later, messaged, named⟩ := Effect.bind_returned numbered
  cases built
  obtain ⟨_, same⟩ := Prod.mk.inj named
  obtain ⟨_, drawn⟩ := Prod.mk.inj messaged
  rw [← same, ← drawn]
  exact ⟨rfl, rfl⟩

theorem appendAgentEvent_returned {eventType : String} {name : Option AgentAlias} {payload : Json}
    {world after : World} (ran : appendAgentEvent eventType name payload world = (.ok (), after)) :
    ∃ event time, event.eventType = eventType ∧ event.agentAlias = name ∧
      after.store = withEvent world.store event time := by
  obtain ⟨event, middle, made, rest⟩ := Effect.bind_returned ran
  obtain ⟨_, last, appended, finished⟩ := Effect.bind_returned rest
  cases finished
  obtain ⟨typed, same⟩ := newCliEvent_returned made
  rw [← same]
  exact ⟨{ event with agentAlias := name }, _, typed, rfl, appendEvent_returned appended⟩

/-- A renaming that returned: the agent is inserted again, the old row deleted with its
foreign-key actions, and one event appended. -/
structure RenameRan (old new : AgentAlias) (oldRecord : AgentRecord) (world after : World) : Prop where
  different : old ≠ new
  known : world.store.agents.find? old = some oldRecord
  absent : world.store.agents.find? new = none
  unrestricted : ∀ row ∈ world.store.tasks.rows, row.agentAlias ≠ old
  result : ∃ event time, event.eventType = "missive.agent.rename" ∧ event.agentAlias = some new ∧
    after.store = withEvent (withoutAgent { world.store with
      agents := world.store.agents.put
        (renamedRecord oldRecord new (world.clock world.drawn).toMillis) } old) event time

theorem renameAgent_returned {old new : AgentAlias} {record : AgentRecord} {world after : World}
    (ran : renameAgent old.text new.text world = (.ok record, after)) :
    ∃ oldRecord, RenameRan old new oldRecord world after := by
  simp only [renameAgent, Id.new_text] at ran
  obtain ⟨_, first, parsed⟩ := Effect.lift_bind_returned ran
  cases first
  obtain ⟨_, second, both⟩ := Effect.lift_bind_returned parsed
  cases second
  obtain ⟨_, checked, compared⟩ := Effect.lift_bind_returned both
  obtain ⟨oldRecord, _, looked, found⟩ := Effect.bind_returned compared
  obtain ⟨known, rfl⟩ := getExistingAgent_returned looked
  obtain ⟨_, writable, allowed⟩ := Effect.lift_bind_returned found
  obtain ⟨_, _, sought, ready⟩ := Effect.bind_returned allowed
  obtain ⟨absent, rfl⟩ := ensureAgentAbsent_returned sought
  obtain ⟨inserted, moved, replaced, rest⟩ := Effect.bind_returned ready
  obtain ⟨_, last, appended, finished⟩ := Effect.bind_returned rest
  cases finished
  obtain ⟨row, free, stores⟩ := replaceAgent_returned absent (ensureWritable_passed writable)
    (Effect.transaction_returned replaced)
  obtain ⟨event, time, typed, linked, final⟩ := appendAgentEvent_returned appended
  refine ⟨oldRecord, differentAliases_passed checked, known, absent, free, event, time, typed, ?_, ?_⟩
  · rw [linked, row]
    rfl
  · rw [final, stores, row]

/-! A renaming as a substitution. -/

section Substitution

variable (old new : AgentAlias)

def renameAlias (name : AgentAlias) : AgentAlias := if name = old then new else name

-- A column that refers to agents.
structure AliasColumn (Row : Type) where
  get : Row → Option AgentAlias
  set : Row → Option AgentAlias → Row
  set_get : ∀ row, set row (get row) = row

structure NullableColumn (Row : Type) {Key : Type} [Keyed Row Key] extends AliasColumn Row where
  get_set : ∀ row reference, get (set row reference) = reference
  key_set : ∀ row reference, key (set row reference) = key row

-- What is compared of a row: everything, or everything but `updated_at`.
structure RowView {Row Key : Type} [Keyed Row Key] (column : AliasColumn Row) where
  shown : Row → Row
  key_shown : ∀ row, key (shown row) = key row
  get_shown : ∀ row, column.get (shown row) = column.get row

def AliasColumn.rename {Row : Type} (column : AliasColumn Row) (row : Row) : Row :=
  column.set row ((column.get row).map (renameAlias old new))

variable {Row Key : Type} [Keyed Row Key] [LinearOrder Key]

/-- One table holds the changed rows of another, in the eyes of the view. -/
def SameRows (view change : Row → Row) (before after : Table Row) : Prop :=
  (after.rows.map view).Perm (before.rows.map fun row => view (change row))

def Unreferenced (column : AliasColumn Row) (rows : List Row) : Prop :=
  ∀ row ∈ rows, column.get row ≠ some old

theorem rename_unreferenced (column : AliasColumn Row) (row : Row)
    (free : column.get row ≠ some old) : column.rename old new row = row := by
  have same : (column.get row).map (renameAlias old new) = column.get row := by
    cases reference : column.get row with
    | none => rfl
    | some name =>
        have other : name ≠ old := fun equal => free (reference.trans (congrArg some equal))
        simp [renameAlias, other]
  rw [AliasColumn.rename, same, column.set_get]

theorem map_rename_unreferenced (column : AliasColumn Row) (view : Row → Row) (rows : List Row)
    (free : Unreferenced old column rows) :
    (rows.map fun row => view (column.rename old new row)) = rows.map view := by
  apply List.map_congr_left
  intro row member
  rw [rename_unreferenced old new column row (free row member)]

/-- `ON DELETE CASCADE` keeps the renamed rows only when there are none to rename. -/
theorem sameRows_cascade (column : AliasColumn Row) (view : Row → Row) (table : Table Row)
    (keep : Row → Bool) (kept : ∀ row, keep row = true ↔ column.get row ≠ some old) :
    SameRows view (column.rename old new) table (table.filter keep) ↔
      Unreferenced old column table.rows := by
  constructor
  · intro same row member
    have lengths : (table.rows.filter keep).length = table.rows.length := by
      simpa [Table.filter] using same.length_eq
    exact (kept row).mp (List.length_filter_eq_length_iff.mp lengths row member)
  · intro free
    have all : table.rows.filter keep = table.rows :=
      List.filter_eq_self.mpr fun row member => (kept row).mpr (free row member)
    unfold SameRows
    rw [map_rename_unreferenced old new column view table.rows free]
    simp only [Table.filter, all]
    exact List.Perm.refl _

theorem clearAlias_other (reference : Option AgentAlias) (free : reference ≠ some old) :
    clearAlias old reference = reference := if_neg free

variable (column : NullableColumn Row) (view : RowView column.toAliasColumn)

def cleared (row : Row) : Row := column.set row (clearAlias old (column.get row))

-- A row whose reference was cleared is not the renamed row, and no other row has its key.
theorem renamed_not_cleared (table : Table Row) (row : Row) (member : row ∈ table.rows)
    (refers : column.get row = some old) :
    view.shown (column.rename old new row) ∉
      table.rows.map fun other => view.shown (cleared old column other) := by
  intro inside
  obtain ⟨other, stored, same⟩ := List.mem_map.mp inside
  have keys : key other = key row := by
    have equal := congrArg key same
    simpa only [view.key_shown, cleared, AliasColumn.rename, column.key_set] using equal
  have equal := table.unique stored member keys
  subst equal
  have references := congrArg column.get same
  simp [view.get_shown, cleared, AliasColumn.rename, column.get_set, refers, clearAlias] at references

omit [LinearOrder Key] in
theorem map_cleared_unreferenced (rows : List Row)
    (free : Unreferenced old column.toAliasColumn rows) :
    (rows.map fun row => view.shown (cleared old column row)) =
      rows.map fun row => view.shown (column.rename old new row) := by
  apply List.map_congr_left
  intro row member
  rw [rename_unreferenced old new column.toAliasColumn row (free row member), cleared,
    clearAlias_other old _ (free row member), column.set_get]

/-- `ON DELETE SET NULL` keeps the renamed rows only when there are none to rename. -/
theorem sameRows_set_null (table : Table Row)
    (keyed : ∀ row, key (cleared old column row) = key row) :
    SameRows view.shown (column.rename old new) table (table.mapRows (cleared old column) keyed) ↔
      Unreferenced old column.toAliasColumn table.rows := by
  have mapped : (table.mapRows (cleared old column) keyed).rows.map view.shown =
      table.rows.map fun row => view.shown (cleared old column row) := by
    simp [Table.mapRows]
  unfold SameRows
  rw [mapped]
  constructor
  · intro same row member refers
    apply renamed_not_cleared old new column view table row member refers
    exact same.mem_iff.mpr (List.mem_map_of_mem member)
  · intro free
    rw [map_cleared_unreferenced old new column view table.rows free]

end Substitution

/-! The referring columns, table by table. -/

def contextAlias : NullableColumn ContextRecord :=
  ⟨⟨ContextRecord.agentAlias, fun row reference => { row with agentAlias := reference }, fun _ => rfl⟩,
    fun _ _ => rfl, fun _ _ => rfl⟩

def contextView : RowView contextAlias.toAliasColumn :=
  ⟨fun row => { row with updatedAt := ⟨0⟩ }, fun _ => rfl, fun _ => rfl⟩

def taskAlias : AliasColumn TaskRecord :=
  ⟨fun row => some row.agentAlias,
    fun row reference => { row with agentAlias := reference.getD row.agentAlias }, fun _ => rfl⟩

def taskView (row : TaskRecord) : TaskRecord := { row with updatedAt := ⟨0⟩ }

def messageAlias : NullableColumn MessageRecord :=
  ⟨⟨MessageRecord.agentAlias, fun row reference => { row with agentAlias := reference }, fun _ => rfl⟩,
    fun _ _ => rfl, fun _ _ => rfl⟩

def messageView : RowView messageAlias.toAliasColumn := ⟨id, fun _ => rfl, fun _ => rfl⟩

def memberAlias : AliasColumn GroupMemberRecord :=
  ⟨fun row => some row.agentAlias,
    fun row reference => { row with agentAlias := reference.getD row.agentAlias }, fun _ => rfl⟩

def jobAlias : NullableColumn GatewayJobRecord :=
  ⟨⟨GatewayJobRecord.agentAlias, fun row reference => { row with agentAlias := reference },
    fun _ => rfl⟩, fun _ _ => rfl, fun _ _ => rfl⟩

def jobView : RowView jobAlias.toAliasColumn :=
  ⟨fun row => { row with updatedAt := ⟨0⟩ }, fun _ => rfl, fun _ => rfl⟩

def pushConfigAlias : AliasColumn PushConfigRecord :=
  ⟨fun row => some row.agentAlias,
    fun row reference => { row with agentAlias := reference.getD row.agentAlias }, fun _ => rfl⟩

def pushConfigView (row : PushConfigRecord) : PushConfigRecord := { row with updatedAt := ⟨0⟩ }

def eventAlias : NullableColumn EventRecord :=
  ⟨⟨EventRecord.agentAlias, fun row reference => { row with agentAlias := reference }, fun _ => rfl⟩,
    fun _ _ => rfl, fun _ _ => rfl⟩

def eventView : RowView eventAlias.toAliasColumn := ⟨id, fun _ => rfl, fun _ => rfl⟩

def sessionAlias : AliasColumn GatewaySessionRecord :=
  ⟨fun row => some row.agentAlias,
    fun row reference => { row with agentAlias := reference.getD row.agentAlias }, fun _ => rfl⟩

def sessionView (row : GatewaySessionRecord) : GatewaySessionRecord := { row with updatedAt := ⟨0⟩ }

def agentView (row : AgentRecord) : AgentRecord := { row with updatedAt := ⟨0⟩ }

def renameAgentRow (old new : AgentAlias) (row : AgentRecord) : AgentRecord :=
  { row with aliasName := renameAlias old new row.aliasName }

/-- The store after is the store before with the alias replaced wherever it stands, up to
`updated_at`, and with one rename event more. -/
structure Renamed (old new : AgentAlias) (before after : Store) : Prop where
  authRefs : after.authRefs = before.authRefs
  agents : SameRows agentView (renameAgentRow old new) before.agents after.agents
  contexts : SameRows contextView.shown (contextAlias.rename old new) before.contexts after.contexts
  tasks : SameRows taskView (taskAlias.rename old new) before.tasks after.tasks
  messages : SameRows messageView.shown (messageAlias.rename old new) before.messages after.messages
  artifacts : after.artifacts = before.artifacts
  groups : after.groups = before.groups
  groupMembers : SameRows id (memberAlias.rename old new) before.groupMembers after.groupMembers
  adapterBindings : after.adapterBindings = before.adapterBindings
  gatewayJobs : SameRows jobView.shown (jobAlias.rename old new) before.gatewayJobs after.gatewayJobs
  pushConfigs : SameRows pushConfigView (pushConfigAlias.rename old new) before.pushConfigs
    after.pushConfigs
  events : ∃ event, event.eventType = "missive.agent.rename" ∧ event.agentAlias = some new ∧
    after.events.rows.Perm (event :: before.events.rows.map (eventAlias.rename old new))
  gatewaySessions : SameRows sessionView (sessionAlias.rename old new) before.gatewaySessions
    after.gatewaySessions

/-- No row refers to the agent. Tasks are left out: a task that does stops the deletion. -/
structure NothingRefers (old : AgentAlias) (store : Store) : Prop where
  contexts : Unreferenced old contextAlias.toAliasColumn store.contexts.rows
  messages : Unreferenced old messageAlias.toAliasColumn store.messages.rows
  groupMembers : Unreferenced old memberAlias store.groupMembers.rows
  gatewayJobs : Unreferenced old jobAlias.toAliasColumn store.gatewayJobs.rows
  pushConfigs : Unreferenced old pushConfigAlias store.pushConfigs.rows
  events : Unreferenced old eventAlias.toAliasColumn store.events.rows
  gatewaySessions : Unreferenced old sessionAlias store.gatewaySessions.rows

theorem sameRows_perm {Row Key : Type} [Keyed Row Key] [LinearOrder Key] {view change : Row → Row}
    {before after : Table Row} {first last : List Row} (old : before.rows.Perm first)
    (new : after.rows.Perm last) :
    SameRows view change before after ↔
      (last.map view).Perm (first.map fun row => view (change row)) := by
  have left := new.map view
  have right := old.map fun row => view (change row)
  constructor
  · intro same
    exact (left.symm.trans same).trans right
  · intro same
    exact (left.trans same).trans right.symm

-- Apart from the renamed agent, the table stays as it is.
theorem put_renamed_perm {old new : AgentAlias} (different : old ≠ new) (agents : Table AgentRecord)
    (oldRecord : AgentRecord) (absent : agents.find? new = none) (now : MilliTime) :
    ((agents.put (renamedRecord oldRecord new now)).filter fun row => row.aliasName ≠ old).rows.Perm
      (renamedRecord oldRecord new now ::
        (agents.filter fun row => row.aliasName ≠ old).rows) := by
  have fresh := (agents.put_perm (renamedRecord oldRecord new now) absent).filter
    fun row => row.aliasName ≠ old
  have stays : (renamedRecord oldRecord new now :: agents.rows).filter
      (fun row => row.aliasName ≠ old) =
      renamedRecord oldRecord new now :: agents.rows.filter fun row => row.aliasName ≠ old := by
    apply List.filter_cons_of_pos
    exact decide_eq_true different.symm
  rw [stays] at fresh
  exact fresh

/-- The renamed agent keeps everything but its creation time. -/
theorem sameRows_agents {old new : AgentAlias} (different : old ≠ new) (agents : Table AgentRecord)
    {oldRecord : AgentRecord} (known : agents.find? old = some oldRecord)
    (absent : agents.find? new = none) (now : MilliTime) :
    SameRows agentView (renameAgentRow old new) agents
        ((agents.put (renamedRecord oldRecord new now)).filter fun row => row.aliasName ≠ old) ↔
      oldRecord.createdAt = now := by
  obtain ⟨member, named⟩ := (agents.find?_eq_some old oldRecord).mp known
  have aliasOf : oldRecord.aliasName = old := named
  have before : agents.rows.Perm
      (oldRecord :: (agents.filter fun row => row.aliasName ≠ old).rows) := by
    apply agents.perm_found _ _ member
    intro other
    rw [decide_eq_true_iff, ← aliasOf]
    rfl
  have unchanged : ((agents.filter fun row => row.aliasName ≠ old).rows.map
        fun row => agentView (renameAgentRow old new row)) =
      (agents.filter fun row => row.aliasName ≠ old).rows.map agentView := by
    apply List.map_congr_left
    intro row inside
    have unlike : row.aliasName ≠ old := of_decide_eq_true (List.mem_filter.mp inside).2
    simp [renameAgentRow, renameAlias, unlike]
  rw [sameRows_perm before (put_renamed_perm different agents oldRecord absent now), List.map_cons,
    List.map_cons, unchanged, ← Multiset.coe_eq_coe, ← Multiset.cons_coe, ← Multiset.cons_coe,
    Multiset.cons_inj_left]
  simp only [agentView, renamedRecord, renameAgentRow, renameAlias, aliasOf, if_true]
  constructor
  · intro same
    exact (congrArg AgentRecord.createdAt same).symm
  · rintro rfl
    rfl

-- The appended event has a sequence number of its own.
theorem sameEvents_set_null (old : AgentAlias) {new : AgentAlias} (store : Store) (event : EventInsert)
    (time : MilliTime) (typed : event.eventType = "missive.agent.rename")
    (linked : event.agentAlias = some new) :
    (∃ added, added.eventType = "missive.agent.rename" ∧ added.agentAlias = some new ∧
      (withEvent (withoutAgent store old) event time).events.rows.Perm
        (added :: store.events.rows.map (eventAlias.rename old new))) ↔
      Unreferenced old eventAlias.toAliasColumn store.events.rows := by
  have fresh : (withoutAgent store old).events.find?
      (key (event.toRecord time store.nextSequence)) = none := by
    cases found : (withoutAgent store old).events.find?
        (key (event.toRecord time store.nextSequence)) with
    | none => rfl
    | some row =>
        obtain ⟨member, same⟩ := ((withoutAgent store old).events.find?_eq_some _ row).mp found
        have less := (withoutAgent store old).unused row member
        exact absurd (show row.sequence = store.nextSequence from same) (ne_of_lt less)
  have appended : (withEvent (withoutAgent store old) event time).events.rows.Perm
      (event.toRecord time store.nextSequence ::
        store.events.rows.map (cleared old eventAlias)) :=
    (withoutAgent store old).events.put_perm _ fresh
  constructor
  · rintro ⟨added, _, _, same⟩ row member refers
    have inside := (appended.symm.trans same).mem_iff.mpr
      (List.mem_cons_of_mem added (List.mem_map_of_mem member))
    rcases List.mem_cons.mp inside with last | before
    · have less := store.unused row member
      have number : row.sequence = store.nextSequence := congrArg EventRecord.sequence last
      omega
    · exact renamed_not_cleared old new eventAlias eventView store.events row member refers before
  · intro free
    refine ⟨event.toRecord time store.nextSequence, typed, linked, ?_⟩
    have same := map_cleared_unreferenced old new eventAlias eventView store.events.rows free
    rw [show store.events.rows.map (eventAlias.rename old new) =
      store.events.rows.map (cleared old eventAlias) from same.symm]
    exact appended

theorem sameRows_tasks {old new : AgentAlias} (tasks : Table TaskRecord)
    (unrestricted : ∀ row ∈ tasks.rows, row.agentAlias ≠ old) :
    SameRows taskView (taskAlias.rename old new) tasks tasks := by
  unfold SameRows
  rw [map_rename_unreferenced old new taskAlias taskView tasks.rows
    fun row member same => unrestricted row member (Option.some.inj same)]

/-- A rename that returned is a substitution exactly when no row but the agent's own had
the alias and the clock still shows the time at which the agent was created. -/
theorem renamed_iff_nothing_refers (old new : AgentAlias) (world after : World)
    (record : AgentRecord) (ran : renameAgent old.text new.text world = (.ok record, after)) :
    Renamed old new world.store after.store ↔
      NothingRefers old world.store ∧
        ∀ row, world.store.agents.find? old = some row →
          row.createdAt = (world.clock world.drawn).toMillis := by
  obtain ⟨oldRecord, different, known, absent, unrestricted, event, time, typed, linked, stored⟩ :=
    renameAgent_returned ran
  rw [stored]
  have agents := sameRows_agents different world.store.agents known absent
    (world.clock world.drawn).toMillis
  have contexts := sameRows_set_null old new contextAlias contextView world.store.contexts fun _ => rfl
  have messages := sameRows_set_null old new messageAlias messageView world.store.messages fun _ => rfl
  have jobs := sameRows_set_null old new jobAlias jobView world.store.gatewayJobs fun _ => rfl
  have members := sameRows_cascade old new memberAlias id world.store.groupMembers
    (fun row => row.agentAlias ≠ old) (fun row => by simp [memberAlias])
  have pushes := sameRows_cascade old new pushConfigAlias pushConfigView world.store.pushConfigs
    (fun row => row.agentAlias ≠ old) (fun row => by simp [pushConfigAlias])
  have sessions := sameRows_cascade old new sessionAlias sessionView world.store.gatewaySessions
    (fun row => row.agentAlias ≠ old) (fun row => by simp [sessionAlias])
  have events := sameEvents_set_null old { world.store with
      agents := world.store.agents.put
        (renamedRecord oldRecord new (world.clock world.drawn).toMillis) } event time typed linked
  constructor
  · intro renamed
    refine ⟨⟨contexts.mp renamed.contexts, messages.mp renamed.messages,
      members.mp renamed.groupMembers, jobs.mp renamed.gatewayJobs, pushes.mp renamed.pushConfigs,
      events.mp renamed.events, sessions.mp renamed.gatewaySessions⟩, ?_⟩
    intro row found
    rw [known] at found
    cases found
    exact agents.mp renamed.agents
  · rintro ⟨free, created⟩
    exact ⟨rfl, agents.mpr (created oldRecord known), contexts.mpr free.contexts,
      sameRows_tasks world.store.tasks unrestricted, messages.mpr free.messages, rfl, rfl,
      members.mpr free.groupMembers, rfl, jobs.mpr free.gatewayJobs, pushes.mpr free.pushConfigs,
      events.mpr free.events, sessions.mpr free.gatewaySessions⟩

def echoAlias : AgentAlias := ⟨"echo", by decide⟩
def relayAlias : AgentAlias := ⟨"relay", by decide⟩
def linkedContext : ContextId := ⟨"ctx-1", by decide⟩

def seedAgent : Action Unit := do
  let _ ← upsertAgent (.new echoAlias "http://127.0.0.1")

def seedContext : Action Unit := do
  let _ ← upsertContext { ContextUpsert.new linkedContext with agentAlias := some echoAlias }

def agentWorld : World := (seedAgent ⟨Store.empty, fun _ => ⟨0⟩, fun _ => "message", 0⟩).2

def linkedWorld : World := (seedContext agentWorld).2

theorem lone_agent_renamed :
    ∃ record after, renameAgent echoAlias.text relayAlias.text agentWorld = (.ok record, after) ∧
      Renamed echoAlias relayAlias agentWorld.store after.store := by
  refine ⟨_, _, rfl, ?_⟩
  apply (renamed_iff_nothing_refers echoAlias relayAlias agentWorld _ _ rfl).mpr
  refine ⟨⟨?_, ?_, ?_, ?_, ?_, ?_, ?_⟩, ?_⟩
  case refine_8 =>
    intro row found
    have created : (agentWorld.store.agents.find? echoAlias).map AgentRecord.createdAt =
        some ⟨0⟩ := rfl
    rw [found] at created
    exact Option.some.inj created
  all_goals exact fun row member => absurd member List.not_mem_nil

/-- A context of the agent does not follow the renaming: its reference is cleared. -/
theorem context_reference_cleared :
    (renameAgent echoAlias.text relayAlias.text linkedWorld).1.isOk = true ∧
    ¬ Renamed echoAlias relayAlias linkedWorld.store
      (renameAgent echoAlias.text relayAlias.text linkedWorld).2.store := by
  refine ⟨by decide, ?_⟩
  intro renamed
  have references := renamed.contexts.map ContextRecord.agentAlias
  revert references
  decide

end Missive.AgentRename
