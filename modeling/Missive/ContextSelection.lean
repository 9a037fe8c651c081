import Missive.ContextDirectory

/-! Selecting a context by its id or its name. The id is looked up first: a name selects its
context unless it is the id of another one, which an agent may choose at any time. -/
namespace Missive.ContextSelection

open KeyedTable Missive.Core Schema Effects Repository Contexts ContextDirectory

theorem contextById_id (store : Store) (id : ContextId) :
    contextById store id.text = store.contexts.find? id := by
  rw [contextById, Id.new_text]

theorem contextById_none {store : Store} {selector : String}
    (strange : ∀ row ∈ store.contexts.rows, row.contextId.text ≠ selector) :
    contextById store selector = none := by
  cases found : contextById store selector with
  | none => rfl
  | some row =>
      exfalso
      unfold contextById at found
      cases made : Id.new .contextId selector with
      | ok id =>
          simp only [made] at found
          obtain ⟨stored, same⟩ := (Table.find?_eq_some _ id row).mp found
          apply strange row stored
          rw [show row.contextId = id from same]
          exact Id.text_of_new made
      | error error =>
          simp only [made] at found
          cases found

theorem eq_singleton {Item : Type} {items : List Item} {item : Item} (distinct : items.Nodup)
    (member : item ∈ items) (only : ∀ other ∈ items, other = item) : items = [item] := by
  cases items with
  | nil => cases member
  | cons first rest =>
      cases rest with
      | nil => rw [only first (by simp)]
      | cons second rest =>
          have same : first = second := (only first (by simp)).trans (only second (by simp)).symm
          rw [same] at distinct
          simp at distinct

theorem contextsNamed_only {store : Store} (kept : WellKept store.contexts) {row : ContextRecord}
    {name : String} (stored : row ∈ store.contexts.rows) (named : row.name = some name) :
    contextsNamed store name = [row] := by
  apply eq_singleton
  · exact store.contexts.nodup.filter _
  · exact List.mem_filter.mpr ⟨stored, decide_eq_true named⟩
  · intro other member
    obtain ⟨otherStored, otherNamed⟩ := List.mem_filter.mp member
    exact kept.names other otherStored row stored name (of_decide_eq_true otherNamed) named

theorem resolve_id (world : World) {row : ContextRecord}
    (stored : row ∈ world.store.contexts.rows) :
    resolveContextSelector row.contextId.text world = (.ok row, world) := by
  have found : contextById world.store row.contextId.text = some row := by
    rw [contextById_id]
    exact Table.find?_self _ row stored
  have read : readStore (fun store => contextById store row.contextId.text) world =
      (.ok (some row), world) := by
    rw [readStore, found]
  rw [resolveContextSelector, Effect.bind_ok _ _ _ _ _ read]
  rfl

theorem resolve_name {world : World} (kept : WellKept world.store.contexts) {row : ContextRecord}
    {name : String} (stored : row ∈ world.store.contexts.rows) (named : row.name = some name)
    (strange : ∀ other ∈ world.store.contexts.rows, other.contextId.text ≠ name) :
    resolveContextSelector name world = (.ok row, world) := by
  have read : readStore (fun store => contextById store name) world = (.ok none, world) := by
    rw [readStore, contextById_none strange]
  have listed : readStore (fun store => contextsNamed store name) world = (.ok [row], world) := by
    rw [readStore, contextsNamed_only kept stored named]
  rw [resolveContextSelector, Effect.bind_ok _ _ _ _ _ read]
  exact (Effect.bind_ok _ _ _ _ _ listed).trans rfl

theorem planning_valid : IdKind.contextId.reason "planning" = none := by decide
theorem pushed_valid : IdKind.eventId.reason "push-1" = none := by decide

def pushedEvent : EventInsert :=
  { EventInsert.new ⟨"push-1", pushed_valid⟩ "gateway:webhook" "a2a.push.message" .null with
    contextId := some ⟨"planning", planning_valid⟩ }

def shadowingSteps : List Step :=
  [.create (fun _ => none) ⟨some "c-1", some "planning", none, none, []⟩, .webhook pushedEvent]

end Missive.ContextSelection
