import Missive.Artifacts

/-! Isolation between tasks, as two runs: one with the other task's artifacts and
one without them. A payload reads and writes the rows under the ids it names,
whatever task owns them, so the ids two tasks share decide what one can do to the
other. -/
namespace Missive.ArtifactIsolation

open JsonValue KeyedTable Missive.Core Schema Effects Repository Artifacts

variable (codec : ArtifactCodec)

section Isolation

variable {Result Other : Type} (other : TaskId)

def artifactsOf (store : Store) : Table ArtifactRecord :=
  store.artifacts.filter fun row => row.taskId = other

def withoutArtifactsOf (world : World) : World :=
  world.withStore { world.store with
    artifacts := world.store.artifacts.filter fun row => row.taskId ≠ other }

/-- The other task's rows stay as they are, and neither the result nor any other
row depends on them. -/
structure Isolated (action : Action Result) (world : World) : Prop where
  kept : artifactsOf other (action world).2.store = artifactsOf other world.store
  independent : action (withoutArtifactsOf other world) =
    ((action world).1, withoutArtifactsOf other (action world).2)

-- No artifact of the other task is stored under the id.
def Clear (store : Store) (id : String) : Prop :=
  ∀ row ∈ (artifactsOf other store).rows, row.artifactId.text ≠ id

variable {other}

theorem isolated_lift (result : Except MissiveError Result) (world : World) :
    Isolated other (Effect.lift result) world := ⟨rfl, rfl⟩

theorem isolated_pure (result : Result) (world : World) :
    Isolated other (pure result) world := ⟨rfl, rfl⟩

theorem isolated_bind {first : Action Result} {next : Result → Action Other} {world : World}
    (head : Isolated other first world)
    (tail : ∀ result after, first world = (.ok result, after) → Isolated other (next result) after) :
    Isolated other (first >>= next) world := by
  obtain ⟨kept, independent⟩ := head
  cases shown : first world with
  | mk outcome after =>
      rw [shown] at kept independent
      cases outcome with
      | error error =>
          have whole := Effect.bind_error first next world after error shown
          have apart := Effect.bind_error first next _ _ error independent
          exact ⟨by rw [whole]; exact kept, by rw [whole, apart]⟩
      | ok result =>
          have whole := Effect.bind_ok first next world after result shown
          have apart := Effect.bind_ok first next _ _ result independent
          have rest := tail result after shown
          refine ⟨?_, ?_⟩
          · rw [whole]
            exact rest.kept.trans kept
          · rw [whole, apart]
            exact rest.independent

theorem isolated_lift_bind {result : Except MissiveError Result} {next : Result → Action Other}
    {world : World} (tail : ∀ value, result = .ok value → Isolated other (next value) world) :
    Isolated other (Effect.lift result >>= next) world := by
  apply isolated_bind (isolated_lift result world)
  intro value after ran
  obtain ⟨shown, same⟩ := Prod.mk.inj ran
  subst same
  exact tail value shown

theorem clear_find (store : Store) (id : ArtifactId) (clear : Clear other store id.text) :
    ∀ row, store.artifacts.find? id = some row → row.taskId ≠ other := by
  intro row found owned
  obtain ⟨member, keyed⟩ := (store.artifacts.find?_eq_some id row).mp found
  apply clear row
  · exact List.mem_filter.mpr ⟨member, by simpa using owned⟩
  · exact congrArg Id.text keyed

theorem clear_find_without (world : World) (id : ArtifactId)
    (clear : Clear other world.store id.text) :
    (withoutArtifactsOf other world).store.artifacts.find? id =
      world.store.artifacts.find? id := by
  have dropped := world.store.artifacts.find?_filter (fun row => row.taskId ≠ other) id
  refine dropped.trans ?_
  cases found : world.store.artifacts.find? id with
  | none => rfl
  | some row => simp [Option.filter_some, clear_find world.store id clear row found]

theorem clear_of_kept {before after : Store} (kept : artifactsOf other after = artifactsOf other before)
    {id : String} (clear : Clear other before id) : Clear other after id := by
  unfold Clear
  rw [kept]
  exact clear

theorem getArtifact_isolated (id : ArtifactId) (world : World)
    (clear : Clear other world.store id.text) : Isolated other (getArtifact id) world := by
  refine ⟨rfl, ?_⟩
  have same := clear_find_without world id clear
  simp only [getArtifact, readStore, same]

theorem artifactsOf_put (store : Store) (row : ArtifactRecord) (foreign : row.taskId ≠ other)
    (clear : Clear other store row.artifactId.text) :
    artifactsOf other { store with artifacts := store.artifacts.put row } = artifactsOf other store := by
  apply Table.filter_put_dropped
  · simpa using foreign
  · intro old found
    simpa using clear_find store row.artifactId clear old found

theorem upsertArtifact_isolated (upsert : ArtifactUpsert) (world : World)
    (foreign : upsert.taskId ≠ other) (clear : Clear other world.store upsert.artifactId.text) :
    Isolated other (upsertArtifact upsert) world := by
  have same := clear_find_without world upsert.artifactId clear
  cases checked : upsert.check with
  | error error =>
      have failed : ∀ start, upsertArtifact upsert start = (.error error, start) := by
        intro start
        unfold upsertArtifact
        rw [checked]
        rfl
      exact ⟨by rw [failed], by rw [failed, failed]⟩
  | ok _ =>
      -- the references are looked up in other tables, so both runs meet the same refusal
      have unmoved : upsert.refused (withoutArtifactsOf other world).store =
          upsert.refused world.store := rfl
      cases outcome : upsert.refused world.store with
      | some error =>
          have failed := fun start => upsertRow_refused artifactsTable upsert.check
            "upserting artifact" "artifact" upsert.artifactId.text upsert.artifactId upsert.refused
            upsert.toRecord checked error start
          have whole := failed world outcome
          have apart := failed (withoutArtifactsOf other world) (unmoved.trans outcome)
          unfold upsertArtifact
          exact ⟨by rw [whole]; rfl, by rw [whole, apart]; rfl⟩
      | none =>
          have stored := fun start => upsertRow_accepted artifactsTable upsert.check
            "upserting artifact" "artifact" upsert.artifactId.text upsert.artifactId upsert.refused
            upsert.toRecord (fun _ _ => rfl) checked start
          have whole := stored world outcome
          have apart := stored (withoutArtifactsOf other world) (unmoved.trans outcome)
          have row : artifactsTable.written upsert.artifactId upsert.toRecord
                (withoutArtifactsOf other world) =
              artifactsTable.written upsert.artifactId upsert.toRecord world :=
            congrArg (upsert.toRecord (world.clock world.drawn).toMillis) same
          rw [row] at apart
          unfold upsertArtifact
          refine ⟨?_, ?_⟩
          · rw [whole]
            exact artifactsOf_put world.store _ foreign clear
          · rw [whole, apart]
            have moved := world.store.artifacts.filter_put (fun old => old.taskId ≠ other)
              (artifactsTable.written upsert.artifactId upsert.toRecord world)
              (decide_eq_true foreign)
            simp only [withoutArtifactsOf, artifactsTable, World.withStore, World.later] at moved ⊢
            rw [moved]

/-- A write for one task leaves another alone when neither the row it reads nor the
row it replaces is the other's. -/
theorem writeArtifact_isolated (id : ArtifactId)
    (build : Option ArtifactRecord → Except MissiveError ArtifactUpsert) (world : World)
    (clear : Clear other world.store id.text)
    (target : ∀ upsert, build (world.store.artifacts.find? id) = .ok upsert →
      upsert.taskId ≠ other ∧ Clear other world.store upsert.artifactId.text) :
    Isolated other (writeArtifact id build) world := by
  apply isolated_bind (getArtifact_isolated id world clear)
  intro existing after found
  cases found
  apply isolated_lift_bind
  intro upsert made
  obtain ⟨foreign, free⟩ := target upsert made
  exact upsertArtifact_isolated upsert world foreign free

theorem persistTaskArtifacts_fold_isolated (taskId : TaskId) (contextId : ContextId)
    (foreign : taskId ≠ other) (stored : List ArtifactRecord) (artifacts : List Artifact)
    (world : World) (clear : ∀ artifact ∈ artifacts, Clear other world.store artifact.artifactId) :
    Isolated other (Effect.fold (persistTaskArtifact codec taskId contextId) stored artifacts)
      world := by
  induction artifacts generalizing stored world with
  | nil => exact isolated_pure stored world
  | cons artifact rest ih =>
      have step : Isolated other (persistTaskArtifact codec taskId contextId stored artifact) world := by
        apply isolated_lift_bind
        intro artifactId named
        have here : Clear other world.store artifactId.text := by
          rw [Id.text_of_new named]
          exact clear artifact List.mem_cons_self
        apply isolated_bind
        · apply writeArtifact_isolated artifactId _ world here
          intro upsert built
          have from_ := artifactUpsertFromProtocol_built codec built
          refine ⟨from_.owned ▸ foreign, ?_⟩
          rw [from_.named]
          exact clear artifact List.mem_cons_self
        · intro record after _
          exact isolated_pure _ after
      apply isolated_bind step
      intro next after ran
      apply ih
      intro later member
      have kept := step.kept
      rw [ran] at kept
      exact clear_of_kept kept (clear later (List.mem_cons_of_mem artifact member))

/-! The other direction: a persist that succeeded owns every id it wrote. -/

def Owned (owner : TaskId) (store : Store) (id : String) : Prop :=
  ∃ row ∈ store.artifacts.rows, row.artifactId.text = id ∧ row.taskId = owner

theorem owned_clear {owner : TaskId} (different : owner ≠ other) {before after : Store} {id : String}
    (owned : Owned owner after id) (kept : artifactsOf other after = artifactsOf other before) :
    Clear other before id := by
  obtain ⟨row, member, named, taskOf⟩ := owned
  intro old present same
  rw [← kept] at present
  obtain ⟨stored, others⟩ := List.mem_filter.mp present
  have keyed : key old = key row := Id.ext_text (same.trans named.symm)
  have equal := after.artifacts.unique stored member keyed
  subst equal
  apply different
  rw [← taskOf]
  simpa using others

theorem owned_put {owner : TaskId} (store : Store) (row : ArtifactRecord) (taskOf : row.taskId = owner)
    (id : String) (owned : row.artifactId.text = id ∨ Owned owner store id) :
    Owned owner { store with artifacts := store.artifacts.put row } id := by
  rcases owned with named | ⟨old, member, named, oldTask⟩
  · exact ⟨row, (store.artifacts.mem_put row row).mpr (Or.inl rfl), named, taskOf⟩
  · by_cases same : key old = key row
    · refine ⟨row, (store.artifacts.mem_put row row).mpr (Or.inl rfl), ?_, taskOf⟩
      rw [← named]
      exact congrArg Id.text same.symm
    · exact ⟨old, (store.artifacts.mem_put row old).mpr (Or.inr ⟨member, same⟩), named, oldTask⟩

theorem persistTaskArtifact_owned {taskId : TaskId} {contextId : ContextId}
    {stored next : List ArtifactRecord} {artifact : Artifact} {world after : World}
    (ran : persistTaskArtifact codec taskId contextId stored artifact world = (.ok next, after))
    (id : String) (owned : artifact.artifactId = id ∨ Owned taskId world.store id) :
    Owned taskId after.store id := by
  obtain ⟨artifactId, _, rest⟩ := Effect.lift_bind_returned ran
  obtain ⟨record, written, wrote, last⟩ := Effect.bind_returned rest
  cases last
  obtain ⟨upsert, built, _, shown, stores⟩ := writeArtifact_returned wrote
  have from_ := artifactUpsertFromProtocol_built codec built
  rw [stores, shown]
  apply owned_put
  · exact from_.owned
  · rcases owned with named | before
    · exact Or.inl (from_.named.trans named)
    · exact Or.inr before

theorem persistTaskArtifacts_fold_owned {taskId : TaskId} {contextId : ContextId}
    {artifacts : List Artifact} {stored final : List ArtifactRecord} {world after : World}
    (ran : Effect.fold (persistTaskArtifact codec taskId contextId) stored artifacts world =
      (.ok final, after))
    (id : String) (owned : (∃ artifact ∈ artifacts, artifact.artifactId = id) ∨
      Owned taskId world.store id) :
    Owned taskId after.store id := by
  induction artifacts generalizing stored world with
  | nil =>
      cases ran
      rcases owned with ⟨artifact, member, _⟩ | before
      · cases member
      · exact before
  | cons artifact rest ih =>
      obtain ⟨next, middle, step, tail⟩ := Effect.bind_returned ran
      apply ih tail
      rcases owned with ⟨later, member, named⟩ | before
      · rcases List.mem_cons.mp member with rfl | inner
        · exact Or.inr (persistTaskArtifact_owned codec step id (Or.inl named))
        · exact Or.inl ⟨later, inner, named⟩
      · exact Or.inr (persistTaskArtifact_owned codec step id (Or.inr before))

/-! Payloads. -/

inductive Payload where
  | task (task : Task)
  | update (update : TaskArtifactUpdateEvent)

def Payload.taskId : Payload → String
  | .task sent => sent.id
  | .update sent => sent.taskId

def persist : Payload → Action (List ArtifactRecord)
  | .task sent => persistTaskArtifacts codec sent
  | .update sent => do
      let record ← persistArtifactUpdate codec sent
      pure [record]

-- The ids inside the content stored under an id, where an append goes on writing.
def contentIds (store : Store) (id : String) : List String :=
  (store.artifacts.rows.filter fun row => row.artifactId.text = id).filterMap fun row =>
    (artifactFromRecord codec row).toOption.map Artifact.artifactId

/-- The artifact ids a payload reads or writes. -/
def touchedIds (store : Store) : Payload → List String
  | .task sent => (sent.artifacts.getD []).map Artifact.artifactId
  | .update sent =>
      sent.artifact.artifactId ::
        if sent.appends then contentIds codec store sent.artifact.artifactId else []

theorem updatedArtifact_touched {update : TaskArtifactUpdateEvent} {store : Store} {id : ArtifactId}
    (named : id.text = update.artifact.artifactId) {artifact : Artifact}
    (updated : updatedArtifact codec update (store.artifacts.find? id) = .ok artifact) :
    artifact.artifactId ∈ touchedIds codec store (.update update) := by
  unfold updatedArtifact at updated
  by_cases appends : update.appends = true
  · rw [if_pos appends] at updated
    cases found : store.artifacts.find? id with
    | none =>
        rw [found] at updated
        cases updated
        exact List.mem_cons_self
    | some row =>
        rw [found] at updated
        obtain ⟨stored, decoded, same⟩ := except_bind_returned updated
        cases same
        obtain ⟨member, keyed⟩ := (store.artifacts.find?_eq_some id row).mp found
        apply List.mem_cons_of_mem
        rw [if_pos appends]
        refine List.mem_filterMap.mpr ⟨row, List.mem_filter.mpr ⟨member, ?_⟩, ?_⟩
        · rw [← named, ← show row.artifactId = id from keyed]
          exact decide_eq_true rfl
        · rw [decoded]
          rfl
  · rw [if_neg appends] at updated
    cases updated
    exact List.mem_cons_self

theorem persistArtifactUpdate_isolated (update : TaskArtifactUpdateEvent) (world : World)
    (owner : TaskId) (belongs : update.taskId = owner.text) (different : owner ≠ other)
    (clear : ∀ id ∈ touchedIds codec world.store (.update update), Clear other world.store id) :
    Isolated other (persistArtifactUpdate codec update) world := by
  apply isolated_lift_bind
  intro taskId known
  have taskOf : taskId = owner := Id.ext_text ((Id.text_of_new known).trans belongs)
  apply isolated_lift_bind
  intro contextId _
  apply isolated_lift_bind
  intro artifactId known
  have named := Id.text_of_new known
  apply writeArtifact_isolated artifactId _ world
  · rw [named]
    exact clear _ List.mem_cons_self
  · intro upsert built
    obtain ⟨artifact, plain, updated, from_, _, shown⟩ := updateUpsert_built codec built
    have target := updatedArtifact_touched codec named updated
    rw [shown]
    refine ⟨?_, ?_⟩
    · rw [from_.owned, taskOf]
      exact different
    · rw [from_.named]
      exact clear _ target

/-- Isolation for the ids the payload does not share with the other task. -/
theorem persist_isolated (payload : Payload) (world : World) (owner : TaskId)
    (belongs : payload.taskId = owner.text) (different : owner ≠ other)
    (clear : ∀ id ∈ touchedIds codec world.store payload, Clear other world.store id) :
    Isolated other (persist codec payload) world := by
  cases payload with
  | update sent =>
      apply isolated_bind (persistArtifactUpdate_isolated codec sent world owner belongs different clear)
      intro record after _
      exact isolated_pure [record] after
  | task sent =>
      cases embedded : sent.artifacts with
      | none =>
          simp only [persist, persistTaskArtifacts, embedded]
          exact isolated_pure [] world
      | some artifacts =>
          simp only [persist, persistTaskArtifacts, embedded]
          apply isolated_lift_bind
          intro taskId known
          have taskOf : taskId = owner := Id.ext_text ((Id.text_of_new known).trans belongs)
          subst taskOf
          apply isolated_lift_bind
          intro contextId _
          apply persistTaskArtifacts_fold_isolated codec taskId contextId different [] artifacts world
          intro artifact member
          apply clear
          simp only [touchedIds, embedded, Option.getD_some]
          exact List.mem_map_of_mem member

theorem update_stored_owned {update : TaskArtifactUpdateEvent} {world after : World}
    {record : ArtifactRecord} {id : ArtifactId} {artifact : Artifact} {owner : TaskId}
    (stored : UpdateStored codec update world after record id artifact)
    (belongs : update.taskId = owner.text) : Owned owner after.store artifact.artifactId := by
  rw [stored.written]
  apply owned_put
  · exact Id.ext_text (stored.owned.trans belongs)
  · exact Or.inl stored.target

-- An append keeps the id inside the content it extends.
theorem contentIds_updated {update : TaskArtifactUpdateEvent} {store : Store} {id : ArtifactId}
    (named : id.text = update.artifact.artifactId) (appends : update.appends = true)
    {artifact : Artifact}
    (updated : updatedArtifact codec update (store.artifacts.find? id) = .ok artifact)
    {inner : String} (member : inner ∈ contentIds codec store update.artifact.artifactId) :
    inner = artifact.artifactId := by
  obtain ⟨row, stored, shown⟩ := List.mem_filterMap.mp member
  obtain ⟨present, keyed⟩ := List.mem_filter.mp stored
  have found : store.artifacts.find? id = some row := by
    apply (store.artifacts.find?_eq_some id row).mpr ⟨present, ?_⟩
    exact Id.ext_text ((of_decide_eq_true keyed).trans named.symm)
  rw [found, updatedArtifact, if_pos appends] at updated
  obtain ⟨old, decoded, same⟩ := except_bind_returned updated
  cases same
  rw [decoded] at shown
  cases shown
  rfl

theorem find?_without_of_owned (world : World) (id : ArtifactId) (row : ArtifactRecord)
    (found : world.store.artifacts.find? id = some row) (owned : row.taskId = other) :
    (withoutArtifactsOf other world).store.artifacts.find? id = none := by
  refine (world.store.artifacts.find?_filter (fun row => row.taskId ≠ other) id).trans ?_
  rw [found, Option.filter_some]
  simp [owned]

theorem update_touched_clear {update : TaskArtifactUpdateEvent} {world after : World}
    {record : ArtifactRecord} {owner : TaskId} (belongs : update.taskId = owner.text)
    (different : owner ≠ other)
    (ran : persistArtifactUpdate codec update world = (.ok record, after))
    (kept : artifactsOf other after.store = artifactsOf other world.store) {alone : World}
    (independent : persistArtifactUpdate codec update (withoutArtifactsOf other world) =
      (.ok record, alone)) :
    ∀ id ∈ touchedIds codec world.store (.update update), Clear other world.store id := by
  obtain ⟨id, artifact, stored⟩ := persistArtifactUpdate_stored codec ran
  have target := owned_clear different (update_stored_owned codec stored belongs) kept
  -- were the row read the other task's, the run without it would write the update itself
  have own : Clear other world.store update.artifact.artifactId := by
    intro row present same
    obtain ⟨member, owned⟩ := List.mem_filter.mp present
    have found : world.store.artifacts.find? id = some row :=
      (world.store.artifacts.find?_eq_some id row).mpr
        ⟨member, Id.ext_text (same.trans stored.named.symm)⟩
    obtain ⟨again, plain, apart⟩ := persistArtifactUpdate_stored codec independent
    have identical : again = id := Id.ext_text (apart.named.trans stored.named.symm)
    have absent := find?_without_of_owned world id row found (of_decide_eq_true owned)
    have updated := apart.updated
    rw [identical, absent, updatedArtifact_none] at updated
    cases updated
    rw [stored.target.symm.trans apart.target] at target
    exact target row present same
  intro touched member
  rcases List.mem_cons.mp member with rfl | inner
  · exact own
  · split at inner
    · rename_i appends
      rw [contentIds_updated codec stored.named appends stored.updated inner]
      exact target
    · cases inner

end Isolation

instance (other : TaskId) (store : Store) (id : String) : Decidable (Clear other store id) :=
  inferInstanceAs (Decidable (∀ row ∈ (artifactsOf other store).rows, row.artifactId.text ≠ id))

/-- A persisted payload of one task leaves another task's artifacts alone, whatever the
outcome, when no id it reads or writes is stored for the other; a payload that was
persisted did so only then. -/
theorem isolated_iff_ids_apart (payload : Payload) (world : World) (owner other : TaskId)
    (belongs : payload.taskId = owner.text) (different : owner ≠ other) :
    ((∀ id ∈ touchedIds codec world.store payload, Clear other world.store id) →
      Isolated other (persist codec payload) world) ∧
    (∀ stored after, persist codec payload world = (.ok stored, after) →
      (Isolated other (persist codec payload) world ↔
        ∀ id ∈ touchedIds codec world.store payload, Clear other world.store id)) := by
  have enough := persist_isolated codec payload world owner belongs different
  refine ⟨enough, ?_⟩
  intro stored after ran
  refine ⟨?_, enough⟩
  intro isolated
  cases payload with
  | update sent =>
      obtain ⟨kept, independent⟩ := isolated
      rw [ran] at kept independent
      obtain ⟨record, middle, wrote, last⟩ := Effect.bind_returned ran
      cases last
      obtain ⟨again, alone, apart, last⟩ := Effect.bind_returned independent
      cases last
      exact update_touched_clear codec belongs different wrote kept apart
  | task sent =>
      cases embedded : sent.artifacts with
      | none => simp [touchedIds, embedded]
      | some artifacts =>
          have kept := isolated.kept
          rw [ran] at kept
          simp only [persist, persistTaskArtifacts, embedded] at ran
          obtain ⟨taskId, known, rest⟩ := Effect.lift_bind_returned ran
          have taskOf : taskId = owner := Id.ext_text ((Id.text_of_new known).trans belongs)
          subst taskOf
          obtain ⟨contextId, _, folded⟩ := Effect.lift_bind_returned rest
          intro id member
          simp only [touchedIds, embedded, Option.getD_some, List.mem_map] at member
          exact owned_clear different
            (persistTaskArtifacts_fold_owned codec folded id (Or.inl member)) kept

/-- An append of the first task to an id the second task uses takes the row over, with
the second task's text in it. -/
theorem shared_id_taken_over :
    ¬ Isolated secondTask
      (persist textCodec (.update (textUpdate firstTask "answer" none "public" true)))
      secondTaskWorld ∧
    ((persist textCodec (.update (textUpdate firstTask "answer" none "public" true))
      secondTaskWorld).2.store.artifacts.rows.map fun row =>
        (row.taskId, (artifactFromRecord textCodec row).toOption.map fun artifact =>
          artifact.parts.length)) = [(firstTask, some 2)] := by
  refine ⟨?_, by decide⟩
  intro isolated
  have counts := congrArg (fun table => table.rows.length) isolated.kept
  revert counts
  decide

theorem other_id_isolated :
    (∃ stored after, persist textCodec
      (.update (textUpdate firstTask "reply" none "public" true)) secondTaskWorld =
        (.ok stored, after)) ∧
    Isolated secondTask
      (persist textCodec (.update (textUpdate firstTask "reply" none "public" true)))
      secondTaskWorld := by
  have apart := isolated_iff_ids_apart textCodec
    (.update (textUpdate firstTask "reply" none "public" true)) secondTaskWorld firstTask secondTask
    rfl (by decide)
  refine ⟨⟨_, _, rfl⟩, apart.1 (by decide)⟩

end Missive.ArtifactIsolation
