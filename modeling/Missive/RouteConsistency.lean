import Mathlib.Data.List.Nodup
import Missive.RoutePlans

/-! Plans are consistent: the decisions and the list of the selected agree, for every policy. -/
namespace Missive.RouteConsistency

open Missive.Core LastMax OrderedLists RoutePlans

/-! The places of items in a list without repetitions. -/

section Places

variable {Item : Type} [DecidableEq Item] {chosen items : List Item}

theorem idxOf?_some_iff (distinct : chosen.Nodup) {item : Item} {place : Nat} :
    chosen.idxOf? item = some place ↔ chosen[place]? = some item := by
  induction chosen generalizing place with
  | nil => simp
  | cons head rest ih =>
      obtain ⟨absent, later⟩ := List.nodup_cons.mp distinct
      rw [List.idxOf?_cons]
      by_cases same : head = item
      · subst same
        cases place with
        | zero => simp
        | succ place =>
            have apart : rest[place]? ≠ some head := fun held => absent (List.mem_of_getElem? held)
            simpa using apart
      · cases place with
        | zero => simp [same]
        | succ place => simp [same, ih later]

/-- The places that the items of a larger list are chosen at are all the places there are. -/
theorem places_perm (distinct : chosen.Nodup) (all : items.Nodup) (among : ∀ item ∈ chosen, item ∈ items) :
    (items.filterMap chosen.idxOf?).Perm (List.range chosen.length) := by
  have apart : (items.filterMap chosen.idxOf?).Nodup := by
    apply all.filterMap
    intro first last place held other
    have early := (idxOf?_some_iff distinct).mp held
    have late := (idxOf?_some_iff distinct).mp other
    exact Option.some.inj (early.symm.trans late)
  apply (List.perm_ext_iff_of_nodup apart List.nodup_range).mpr
  intro place
  rw [List.mem_filterMap, List.mem_range]
  constructor
  · rintro ⟨item, _, held⟩
    exact (List.getElem?_eq_some_iff.mp ((idxOf?_some_iff distinct).mp held)).1
  · intro inside
    refine ⟨chosen[place], among _ (List.getElem_mem inside), ?_⟩
    exact (idxOf?_some_iff distinct).mpr (List.getElem?_eq_getElem inside)

end Places

/-! What every plan keeps. -/

def Describes (candidate : RouteCandidate) (decision : RouteDecision) : Prop :=
  decision.agentAlias = candidate.agentAlias ∧ decision.rank = candidate.rank ∧
    decision.weight = candidate.weight

structure Ordered (input : RoutePlanInput) (plan : RoutePlan) : Prop where
  described : List.Forall₂ Describes input.candidates plan.decisions
  marked : ∀ decision ∈ plan.decisions, decision.selected = decision.order.isSome
  orders : (plan.decisions.filterMap RouteDecision.order).Perm (List.range plan.selected.length)
  places : ∀ decision ∈ plan.decisions, ∀ order, decision.order = some order →
    plan.selected[order]? = some decision.agentAlias

section Indexed

variable {input : RoutePlanInput} {indices : List Nat}
  {make : RouteCandidate → Nat → RouteDecision} {made : RoutePlan}

theorem aliasAt_found {index : Nat} {candidate : RouteCandidate}
    (found : input.candidates[index]? = some candidate) :
    aliasAt input index = [candidate.agentAlias] := by
  rw [aliasAt, found]
  rfl

theorem aliases_length (within : ∀ index ∈ indices, index < input.candidates.length) :
    (indices.flatMap (aliasAt input)).length = indices.length := by
  induction indices with
  | nil => rfl
  | cons index rest ih =>
      have found := List.getElem?_eq_getElem (within index List.mem_cons_self)
      rw [List.flatMap_cons, List.length_append, aliasAt_found found,
        ih fun other member => within other (List.mem_cons_of_mem _ member)]
      exact Nat.add_comm _ _

theorem aliases_at (within : ∀ index ∈ indices, index < input.candidates.length) {place index : Nat}
    {candidate : RouteCandidate} (held : indices[place]? = some index)
    (found : input.candidates[index]? = some candidate) :
    (indices.flatMap (aliasAt input))[place]? = some candidate.agentAlias := by
  induction indices generalizing place with
  | nil => simp at held
  | cons head rest ih =>
      have first := List.getElem?_eq_getElem (within head List.mem_cons_self)
      rw [List.flatMap_cons, aliasAt_found first, List.singleton_append]
      cases place with
      | zero =>
          cases held
          rw [first] at found
          cases found
          rfl
      | succ place =>
          exact ih (fun other member => within other (List.mem_cons_of_mem _ member)) held

theorem decideEach_related {related : RouteCandidate → RouteDecision → Prop}
    (each : ∀ candidate index, related candidate (make candidate index)) :
    List.Forall₂ related input.candidates (decideEach input make) := by
  unfold decideEach
  generalize 0 = start
  induction input.candidates generalizing start with
  | nil => exact .nil
  | cons candidate rest ih => exact .cons (each candidate start) (ih (start + 1))

/-- A plan that is made from the indices of the selected, each at its place. -/
theorem indexed_ordered (distinct : indices.Nodup)
    (within : ∀ index ∈ indices, index < input.candidates.length)
    (selected : made.selected = indices.flatMap (aliasAt input))
    (decisions : made.decisions = decideEach input make)
    (describes : ∀ candidate index, Describes candidate (make candidate index))
    (ordered : ∀ candidate index, input.candidates[index]? = some candidate →
      (make candidate index).order = indices.idxOf? index ∧
      (make candidate index).selected = (indices.idxOf? index).isSome) :
    Ordered input made := by
  have each : ∀ decision ∈ made.decisions, ∃ candidate index,
      input.candidates[index]? = some candidate ∧ decision = make candidate index := by
    intro decision member
    rw [decisions, decideEach] at member
    obtain ⟨item, listed, rfl⟩ := List.mem_map.mp member
    exact ⟨item.1, item.2, List.mem_zipIdx_iff_getElem?.mp listed, rfl⟩
  constructor
  · rw [decisions]
    exact decideEach_related describes
  · intro decision member
    obtain ⟨candidate, index, found, rfl⟩ := each decision member
    rw [(ordered candidate index found).1, (ordered candidate index found).2]
  · have orders : made.decisions.filterMap RouteDecision.order =
        (List.range input.candidates.length).filterMap indices.idxOf? := by
      rw [decisions, decideEach, List.filterMap_map, List.range_eq_range',
        ← List.zipIdx_map_snd 0 input.candidates, List.filterMap_map]
      apply List.filterMap_congr
      intro item member
      exact (ordered item.1 item.2 (List.mem_zipIdx_iff_getElem?.mp member)).1
    rw [orders, selected, aliases_length within]
    apply places_perm distinct List.nodup_range
    intro index member
    exact List.mem_range.mpr (within index member)
  · intro decision member order held
    obtain ⟨candidate, index, found, rfl⟩ := each decision member
    rw [(ordered candidate index found).1] at held
    rw [selected, (describes candidate index).1]
    exact aliases_at within ((idxOf?_some_iff distinct).mp held) found

end Indexed

/-! The policies. -/

section Policies

variable {input : RoutePlanInput}

theorem single_ordered {selectedIndex : Nat} (inside : selectedIndex < input.candidates.length)
    (reason : RouteCandidate → Bool → String) (next : Option UInt64) :
    Ordered input (explainSingle input selectedIndex reason next) := by
  have single : ([selectedIndex].flatMap (aliasAt input)) = aliasAt input selectedIndex := by simp
  have decisions : (explainSingle input selectedIndex reason next).decisions =
      decideEach input fun candidate index =>
        decision candidate (index = selectedIndex) (if index = selectedIndex then some 0 else none)
          (reason candidate (index = selectedIndex)) [] [] := rfl
  apply indexed_ordered (List.nodup_singleton selectedIndex) (by simpa using inside) single.symm
    decisions
  · intro candidate index
    exact ⟨rfl, rfl, rfl⟩
  · intro candidate index _
    by_cases same : index = selectedIndex
    · simp [decision, decisionWithDetails, same]
    · simp [decision, decisionWithDetails, same, Ne.symm same]

theorem range_aliases (input : RoutePlanInput) :
    (List.range input.candidates.length).flatMap (aliasAt input) =
      input.candidates.map RouteCandidate.agentAlias := by
  apply List.ext_getElem?
  intro place
  by_cases inside : place < input.candidates.length
  · have found := List.getElem?_eq_getElem inside
    have held : (List.range input.candidates.length)[place]? = some place := by simp [inside]
    rw [aliases_at (fun index member => List.mem_range.mp member) held found, List.getElem?_map, found]
    rfl
  · have outside := Nat.le_of_not_lt inside
    have within : ∀ index ∈ List.range input.candidates.length, index < input.candidates.length :=
      fun index member => List.mem_range.mp member
    have count := aliases_length within
    rw [List.length_range] at count
    rw [List.getElem?_eq_none (by omega), List.getElem?_eq_none (by rw [List.length_map]; exact outside)]

theorem all_ordered (input : RoutePlanInput) (mode reason : String) (requiredQuorum : Option Nat) :
    Ordered input (selectAll input mode reason requiredQuorum) := by
  have decisions : (selectAll input mode reason requiredQuorum).decisions =
      decideEach input fun candidate index => decision candidate true (some index) reason [] [] := rfl
  apply indexed_ordered List.nodup_range (fun index member => List.mem_range.mp member)
    (range_aliases input).symm decisions
  · intro candidate index
    exact ⟨rfl, rfl, rfl⟩
  · intro candidate index found
    have inside := (List.getElem?_eq_some_iff.mp found).1
    have held : (List.range input.candidates.length)[index]? = some index := by simp [inside]
    have place := (idxOf?_some_iff List.nodup_range).mpr held
    rw [place]
    exact ⟨rfl, rfl⟩

theorem fallbackIndices_perm {primaryIndex : Nat} (inside : primaryIndex < input.candidates.length) :
    (fallbackIndices input primaryIndex).Perm (List.range input.candidates.length) := by
  have erased : (List.range input.candidates.length).filter (fun index => index != primaryIndex) =
      (List.range input.candidates.length).erase primaryIndex :=
    (List.nodup_range.erase_eq_filter primaryIndex).symm
  rw [fallbackIndices, erased]
  exact (List.perm_cons_erase (List.mem_range.mpr inside)).symm

theorem fallback_ordered {primaryIndex : Nat} (inside : primaryIndex < input.candidates.length)
    {made : RoutePlan} (selected : made.selected = (fallbackIndices input primaryIndex).flatMap (aliasAt input))
    (decisions : made.decisions = decideEach input fun candidate index =>
      decision candidate true ((fallbackIndices input primaryIndex).idxOf? index)
        (if index = primaryIndex then "primary fallback target" else "fallback candidate") [] []) :
    Ordered input made := by
  have order := fallbackIndices_perm inside
  have distinct : (fallbackIndices input primaryIndex).Nodup := order.nodup_iff.mpr List.nodup_range
  apply indexed_ordered distinct (fun index member => List.mem_range.mp (order.mem_iff.mp member))
    selected decisions
  · intro candidate index
    exact ⟨rfl, rfl, rfl⟩
  · intro candidate index found
    have inside := (List.getElem?_eq_some_iff.mp found).1
    have member := order.mem_iff.mpr (List.mem_range.mpr inside)
    refine ⟨rfl, ?_⟩
    rw [List.isSome_idxOf?.mpr member]
    rfl

theorem mem_capabilitySelection {item : RouteCandidate × Nat} :
    item ∈ capabilitySelection input ↔ item ∈ input.candidates.zipIdx ∧
      (candidateCapabilityMatch input item.1).isMatch = true := by
  unfold capabilitySelection
  dsimp only
  split
  · rw [mem_sortByKey, List.mem_filter]
  · rw [List.mem_filter]

theorem capabilitySelection_distinct (input : RoutePlanInput) :
    ((capabilitySelection input).map Prod.snd).Nodup := by
  have whole : (input.candidates.zipIdx.map Prod.snd).Nodup := by
    rw [List.zipIdx_map_snd]
    exact List.nodup_range'
  have kept := whole.sublist (List.filter_sublist (p := fun item =>
    (candidateCapabilityMatch input item.1).isMatch) |>.map Prod.snd)
  unfold capabilitySelection
  dsimp only
  split
  · exact ((sortByKey_perm _ _).map Prod.snd).nodup_iff.mpr kept
  · exact kept

theorem zipped_aliases {items : List (RouteCandidate × Nat)}
    (zipped : ∀ item ∈ items, item ∈ input.candidates.zipIdx) :
    items.map (fun item => item.1.agentAlias) = (items.map Prod.snd).flatMap (aliasAt input) := by
  induction items with
  | nil => rfl
  | cons item rest ih =>
      have found := List.mem_zipIdx_iff_getElem?.mp (zipped item List.mem_cons_self)
      rw [List.map_cons, List.map_cons, List.flatMap_cons, aliasAt_found found,
        ih fun other member => zipped other (List.mem_cons_of_mem _ member)]
      rfl

theorem capability_decisions (input : RoutePlanInput) :
    (explainCapabilityMatch input).decisions = decideEach input fun candidate index =>
      decisionWithDetails candidate (candidateCapabilityMatch input candidate).isMatch
        (((capabilitySelection input).map Prod.snd).idxOf? index)
        (capabilityReason (candidateCapabilityMatch input candidate).isMatch
          (capabilityRequirementsPresent input)
          (candidateCapabilityMatch input candidate).missingRequirements)
        ⟨(candidateCapabilityMatch input candidate).matchedTags,
          (candidateCapabilityMatch input candidate).matchedCapabilities,
          (candidateCapabilityMatch input candidate).matchedInputModes,
          (candidateCapabilityMatch input candidate).matchedOutputModes,
          (candidateCapabilityMatch input candidate).missingRequirements⟩ := rfl

theorem capability_ordered (input : RoutePlanInput) : Ordered input (explainCapabilityMatch input) := by
  have zipped : ∀ item ∈ capabilitySelection input, item ∈ input.candidates.zipIdx :=
    fun item member => (mem_capabilitySelection.mp member).1
  have distinct := capabilitySelection_distinct input
  apply indexed_ordered distinct _ (zipped_aliases zipped) (capability_decisions input)
  · intro candidate index
    exact ⟨rfl, rfl, rfl⟩
  · intro candidate index found
    refine ⟨rfl, ?_⟩
    change (candidateCapabilityMatch input candidate).isMatch = _
    rw [Bool.eq_iff_iff, List.isSome_idxOf?, List.mem_map]
    constructor
    · intro hit
      exact ⟨(candidate, index), mem_capabilitySelection.mpr
        ⟨List.mem_zipIdx_iff_getElem?.mpr found, hit⟩, rfl⟩
    · rintro ⟨item, member, rfl⟩
      obtain ⟨listed, hit⟩ := mem_capabilitySelection.mp member
      cases (List.mem_zipIdx_iff_getElem?.mp listed).symm.trans found
      exact hit
  · intro index member
    obtain ⟨item, listed, rfl⟩ := List.mem_map.mp member
    have found := List.mem_zipIdx_iff_getElem?.mp (zipped item listed)
    exact (List.getElem?_eq_some_iff.mp found).1

/-- The counter of the loop numbers the selected from `order` on. -/
theorem tagMatchFrom_ordered (input : RoutePlanInput) (order : Nat) (candidates : List RouteCandidate) :
    let made := tagMatchFrom input order candidates
    List.Forall₂ Describes candidates made.1 ∧
    (∀ decision ∈ made.1, decision.selected = decision.order.isSome) ∧
    made.1.filterMap RouteDecision.order = List.range' order made.2.length ∧
    ∀ decision ∈ made.1, ∀ place, decision.order = some place →
      ∃ after, place = order + after ∧ made.2[after]? = some decision.agentAlias := by
  induction candidates generalizing order with
  | nil => exact ⟨.nil, by simp [tagMatchFrom], rfl, by simp [tagMatchFrom]⟩
  | cons candidate rest ih =>
      dsimp only
      rw [tagMatchFrom]
      dsimp only
      split
      · obtain ⟨described, marked, orders, places⟩ := ih (order + 1)
        refine ⟨.cons ⟨rfl, rfl, rfl⟩ described, ?_, ?_, ?_⟩
        · intro decision member
          rcases List.mem_cons.mp member with rfl | later
          · rfl
          · exact marked decision later
        · exact congrArg (List.cons order) orders
        · intro decision member place held
          rcases List.mem_cons.mp member with rfl | later
          · cases held
            exact ⟨0, rfl, rfl⟩
          · obtain ⟨after, same, found⟩ := places decision later place held
            exact ⟨after + 1, by omega, found⟩
      · obtain ⟨described, marked, orders, places⟩ := ih order
        refine ⟨.cons ⟨rfl, rfl, rfl⟩ described, ?_, ?_, ?_⟩
        · intro decision member
          rcases List.mem_cons.mp member with rfl | later
          · rfl
          · exact marked decision later
        · exact orders
        · intro decision member place held
          rcases List.mem_cons.mp member with rfl | later
          · cases held
          · exact places decision later place held

theorem tag_ordered (input : RoutePlanInput) : Ordered input (explainTagMatch input) := by
  obtain ⟨described, marked, orders, places⟩ := tagMatchFrom_ordered input 0 input.candidates
  constructor
  · exact described
  · exact marked
  · have same : (explainTagMatch input).decisions.filterMap RouteDecision.order =
        List.range (explainTagMatch input).selected.length := by
      rw [List.range_eq_range']
      exact orders
    rw [same]
  · intro decision member order held
    obtain ⟨after, same, found⟩ := places decision member order held
    rw [same, Nat.zero_add]
    exact found

/-! What only the fallback and the quorum policy promise. -/

-- The preferred candidate, or without one the first, then the others in their order.
def PrimaryFirst (input : RoutePlanInput) (made : RoutePlan) : Prop :=
  ∃ before primary after, input.candidates = before ++ primary :: after ∧
    made.selected = (primary :: (before ++ after)).map RouteCandidate.agentAlias ∧
    (∀ preferred ∈ input.preferredAgent, primary.agentAlias = preferred) ∧
    (input.preferredAgent = none → before = [])

theorem others_selected {before after : List RouteCandidate} {primary : RouteCandidate}
    (split : input.candidates = before ++ primary :: after) :
    ((List.range input.candidates.length).filter fun index => index != before.length).flatMap
        (aliasAt input) = (before ++ after).map RouteCandidate.agentAlias := by
  have kept : input.candidates.zipIdx.filter (fun item => item.2 != before.length) =
      before.zipIdx ++ after.zipIdx (before.length + 1) := by
    rw [split, List.zipIdx_append, List.zipIdx_cons, List.filter_append, Nat.zero_add]
    have early : before.zipIdx.filter (fun item => item.2 != before.length) = before.zipIdx := by
      apply List.filter_eq_self.mpr
      intro item member
      have inside := (List.getElem?_eq_some_iff.mp (List.mem_zipIdx_iff_getElem?.mp member)).1
      simpa using Nat.ne_of_lt inside
    have late : (after.zipIdx (before.length + 1)).filter (fun item => item.2 != before.length) =
        after.zipIdx (before.length + 1) := by
      apply List.filter_eq_self.mpr
      intro item member
      have beyond := (List.mem_zipIdx_iff_le_and_getElem?_sub.mp member).1
      simpa using Nat.ne_of_gt beyond
    rw [early, List.filter_cons_of_neg (by simp), late]
  have zipped : ∀ item ∈ before.zipIdx ++ after.zipIdx (before.length + 1),
      item ∈ input.candidates.zipIdx := by
    intro item member
    rw [← kept] at member
    exact (List.mem_filter.mp member).1
  have indices : (List.range input.candidates.length).filter (fun index => index != before.length) =
      (before.zipIdx ++ after.zipIdx (before.length + 1)).map Prod.snd := by
    rw [← kept, List.range_eq_range', ← List.zipIdx_map_snd 0 input.candidates, List.filter_map]
    rfl
  rw [indices, ← zipped_aliases zipped]
  have aliases : ∀ (items : List RouteCandidate) (start : Nat),
      (items.zipIdx start).map (fun item => item.1.agentAlias) =
        items.map RouteCandidate.agentAlias := by
    intro items start
    rw [← List.zipIdx_map_fst start items, List.map_map, List.zipIdx_map_fst]
    rfl
  rw [List.map_append, List.map_append, aliases, aliases]

theorem preferredIndex_within (filled : input.candidates ≠ []) {index : Nat}
    (found : preferredIndexOrFirst input = .ok index) :
    index < input.candidates.length ∧
    (∀ preferred ∈ input.preferredAgent, ∀ candidate, input.candidates[index]? = some candidate →
      candidate.agentAlias = preferred) ∧
    (input.preferredAgent = none → index = 0) := by
  unfold preferredIndexOrFirst at found
  cases wanted : input.preferredAgent with
  | none =>
      rw [wanted] at found
      cases found
      exact ⟨List.length_pos_iff.mpr filled, by simp, fun _ => rfl⟩
  | some preferred =>
      rw [wanted] at found
      cases place : input.candidates.findIdx? fun candidate => candidate.agentAlias = preferred with
      | none =>
          simp only [place] at found
          contradiction
      | some first =>
          simp only [place] at found
          cases found
          obtain ⟨inside, hit, _⟩ := List.findIdx?_eq_some_iff_getElem.mp place
          refine ⟨inside, ?_, by simp⟩
          intro other named candidate held
          cases named
          rw [List.getElem?_eq_getElem inside] at held
          cases held
          simpa using hit

theorem fallback_first {primaryIndex : Nat} (filled : input.candidates ≠ [])
    (found : preferredIndexOrFirst input = .ok primaryIndex) {made : RoutePlan}
    (selected : made.selected = (fallbackIndices input primaryIndex).flatMap (aliasAt input)) :
    PrimaryFirst input made := by
  obtain ⟨inside, preferred, first⟩ := preferredIndex_within filled found
  have held := List.getElem?_eq_getElem inside
  have split : input.candidates = input.candidates.take primaryIndex ++
      input.candidates[primaryIndex] :: input.candidates.drop (primaryIndex + 1) := by
    rw [List.getElem_cons_drop, List.take_append_drop]
  have count : (input.candidates.take primaryIndex).length = primaryIndex :=
    List.length_take_of_le (Nat.le_of_lt inside)
  have others := others_selected split
  rw [count] at others
  refine ⟨_, _, _, split, ?_, ?_, ?_⟩
  · rw [selected, fallbackIndices, List.flatMap_cons, aliasAt_found held, others]
    rfl
  · intro wanted named
    exact preferred wanted named _ held
  · intro none_
    rw [first none_]
    rfl

theorem validateQuorum_bounds {quorum candidates : Nat} (passed : validateQuorum quorum candidates = .ok ()) :
    1 ≤ quorum ∧ quorum ≤ candidates := by
  unfold validateQuorum at passed
  split at passed
  · contradiction
  · omega

theorem validated_filled {display : UInt64 → String} (passed : input.validate display = .ok ()) :
    input.candidates ≠ [] := by
  intro empty
  rw [RoutePlanInput.validate, empty] at passed
  contradiction

/-- Every plan has its decisions, its orders and its list of the selected in agreement. -/
theorem route_plans_consistent {display : UInt64 → String} {made : RoutePlan}
    (explained : explainRoute display input = .ok made) :
    Ordered input made ∧
    (input.policy = .fallback → PrimaryFirst input made) ∧
    (input.policy = .quorum → ∃ required, made.requiredQuorum = some required ∧
      1 ≤ required ∧ required ≤ input.candidates.length) := by
  obtain ⟨_, passed, explained⟩ := Effects.except_bind_returned explained
  have filled := validated_filled passed
  cases kind : input.policy with
  | direct =>
      rw [kind] at explained
      obtain ⟨index, found, explained⟩ := Effects.except_bind_returned explained
      cases explained
      exact ⟨single_ordered (preferredIndex_within filled found).1 _ _, by simp, by simp⟩
  | capabilityMatch =>
      rw [kind] at explained
      cases explained
      exact ⟨capability_ordered input, by simp, by simp⟩
  | tagMatch =>
      rw [kind] at explained
      cases explained
      exact ⟨tag_ordered input, by simp, by simp⟩
  | roundRobin =>
      rw [kind] at explained
      cases explained
      have inside := Nat.mod_lt input.roundRobinCursor.toNat (List.length_pos_iff.mpr filled)
      exact ⟨single_ordered inside _ _, by simp, by simp⟩
  | weighted =>
      rw [kind] at explained
      cases explained
      have inside : (heaviest input).elim 0 Prod.snd < input.candidates.length := by
        cases found : heaviest input with
        | none => exact List.length_pos_iff.mpr filled
        | some item =>
            have listed := List.mem_zipIdx_iff_getElem?.mp (maxByKey_mem found)
            exact (List.getElem?_eq_some_iff.mp listed).1
      exact ⟨single_ordered inside _ _, by simp, by simp⟩
  | broadcast =>
      rw [kind] at explained
      cases explained
      exact ⟨all_ordered input _ _ _, by simp, by simp⟩
  | firstSuccess =>
      rw [kind] at explained
      cases explained
      exact ⟨all_ordered input _ _ _, by simp, by simp⟩
  | quorum =>
      rw [kind] at explained
      obtain ⟨_, bounded, explained⟩ := Effects.except_bind_returned explained
      cases explained
      exact ⟨all_ordered input _ _ _, by simp, fun _ => ⟨_, rfl, validateQuorum_bounds bounded⟩⟩
  | fallback =>
      rw [kind] at explained
      obtain ⟨index, found, explained⟩ := Effects.except_bind_returned explained
      cases explained
      exact ⟨fallback_ordered (preferredIndex_within filled found).1 rfl rfl,
        fun _ => fallback_first filled found rfl, by simp⟩

end Policies

section Backups

def backups : RoutePlanInput :=
  { plainInput .fallback [plainCandidate alpha, plainCandidate beta] with
    preferredAgent := some beta }

theorem backups_planned : ∃ made, explainRoute (fun _ => "") backups = .ok made ∧
    Ordered backups made ∧ PrimaryFirst backups made := by
  have explained : explainRoute (fun _ => "") backups = .ok _ := rfl
  have consistent := route_plans_consistent explained
  exact ⟨_, explained, consistent.1, consistent.2.1 rfl⟩

end Backups

end Missive.RouteConsistency
