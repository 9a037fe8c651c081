import Mathlib.Algebra.Order.Monoid.Unbundled.Pow
import Mathlib.Data.List.Perm.Basic
import Missive.RouteConsistency

/-! Capability matching is exact: who is selected, what each decision reports and in which order. -/
namespace Missive.CapabilityMatching

open Missive.Core OrderedLists RecordUpserts RoutePlans RouteConsistency

/-! What a candidate has to have. -/

def Offers (labels : List String) (requirement : String) : Prop :=
  ∃ label ∈ labels, normalizeLabel label = normalizeLabel requirement

structure Satisfies (input : RoutePlanInput) (candidate : RouteCandidate) : Prop where
  tags : ∀ requirement ∈ input.requiredTags, Offers candidate.tags requirement
  capabilities : ∀ requirement ∈ input.requiredCapabilities,
    Offers candidate.capabilities requirement
  inputModes : ∀ requirement ∈ input.requiredInputModes, Offers candidate.inputModes requirement
  outputModes : ∀ requirement ∈ input.requiredOutputModes, Offers candidate.outputModes requirement
  streaming : input.requireStreaming = true → candidate.supportsStreaming = some true
  pushNotifications : input.requirePushNotifications = true →
    candidate.supportsPushNotifications = some true

-- The requirements of one list, parted into those that are offered and those that are not.
structure Parted (required labels matched missing : List String) : Prop where
  whole : (matched ++ missing).Perm (required.map normalizeLabel)
  distinct : (matched ++ missing).Nodup
  offered : ∀ requirement ∈ required,
    normalizeLabel requirement ∈ matched ↔ Offers labels requirement

def labelled (kind : String) (labels : List String) : List String :=
  labels.map fun label => s!"{kind}:{label}"

def Requires (input : RoutePlanInput) : Prop :=
  input.requiredTags ≠ [] ∨ input.requiredCapabilities ≠ [] ∨ input.requiredInputModes ≠ [] ∨
    input.requiredOutputModes ≠ [] ∨ input.requireStreaming = true ∨
    input.requirePushNotifications = true

structure RequiresTagsOnly (input : RoutePlanInput) : Prop where
  capabilities : input.requiredCapabilities = []
  inputModes : input.requiredInputModes = []
  outputModes : input.requiredOutputModes = []
  streaming : input.requireStreaming = false
  pushNotifications : input.requirePushNotifications = false

/-! What the checks leave. -/

section Checked

variable {display : UInt64 → String} {input : RoutePlanInput}

theorem validateLabelsAfter_distinct {kind : String} {seen : Finset String} {labels : List String}
    (passed : validateLabelsAfter kind seen labels = .ok ()) :
    (labels.map normalizeLabel).Nodup ∧ ∀ label ∈ labels, normalizeLabel label ∉ seen := by
  induction labels generalizing seen with
  | nil => simp
  | cons label rest ih =>
      rw [validateLabelsAfter] at passed
      by_cases empty : normalizeLabel label = ""
      · rw [if_pos empty] at passed
        contradiction
      · rw [if_neg empty] at passed
        by_cases repeated : normalizeLabel label ∈ seen
        · rw [if_pos repeated] at passed
          contradiction
        · rw [if_neg repeated] at passed
          have later := ih passed
          constructor
          · rw [List.map_cons, List.nodup_cons]
            refine ⟨?_, later.1⟩
            intro again
            obtain ⟨other, member, same⟩ := List.mem_map.mp again
            apply later.2 other member
            rw [same]
            exact Finset.mem_insert_self _ _
          · intro other member
            cases member with
            | head => exact repeated
            | tail _ member =>
                intro held
                exact later.2 other member (Finset.mem_insert_of_mem held)

structure Checked (input : RoutePlanInput) : Prop where
  weights : ∀ candidate ∈ input.candidates,
    isFinite candidate.weight = true ∧ isPositive candidate.weight = true
  tags : (input.requiredTags.map normalizeLabel).Nodup
  capabilities : (input.requiredCapabilities.map normalizeLabel).Nodup
  inputModes : (input.requiredInputModes.map normalizeLabel).Nodup
  outputModes : (input.requiredOutputModes.map normalizeLabel).Nodup

theorem candidate_weight {candidate : RouteCandidate} (passed : candidate.validate display = .ok ()) :
    isFinite candidate.weight = true ∧ isPositive candidate.weight = true := by
  by_cases sound : (isFinite candidate.weight && isPositive candidate.weight) = true
  · exact Bool.and_eq_true_iff.mp sound
  · rw [RouteCandidate.validate, if_neg sound] at passed
    contradiction

theorem validated (passed : input.validate display = .ok ()) : Checked input := by
  have filled : ¬input.candidates.isEmpty = true := by
    rw [List.isEmpty_iff]
    exact validated_filled passed
  rw [RoutePlanInput.validate, if_neg filled] at passed
  obtain ⟨_, candidates, passed⟩ := Effects.except_bind_returned passed
  obtain ⟨_, tags, passed⟩ := Effects.except_bind_returned passed
  obtain ⟨_, capabilities, passed⟩ := Effects.except_bind_returned passed
  obtain ⟨_, inputModes, passed⟩ := Effects.except_bind_returned passed
  obtain ⟨_, outputModes, _⟩ := Effects.except_bind_returned passed
  exact {
    weights := fun candidate member =>
      candidate_weight (Effects.except_forM_each candidates candidate member)
    tags := (validateLabelsAfter_distinct tags).1
    capabilities := (validateLabelsAfter_distinct capabilities).1
    inputModes := (validateLabelsAfter_distinct inputModes).1
    outputModes := (validateLabelsAfter_distinct outputModes).1 }

end Checked

/-! Requirement lists. -/

section Lists

variable {required labels : List String}

theorem mem_normalizedSet {requirement : String} :
    normalizeLabel requirement ∈ normalizedSet labels ↔ Offers labels requirement := by
  rw [normalizedSet, List.mem_toFinset, List.mem_map]
  rfl

theorem parted (distinct : (required.map normalizeLabel).Nodup) :
    Parted required labels (intersectionInRequiredOrder required (normalizedSet labels))
      ((required.map normalizeLabel).filter fun label => label ∉ normalizedSet labels) := by
  have whole : (intersectionInRequiredOrder required (normalizedSet labels) ++
      (required.map normalizeLabel).filter fun label => label ∉ normalizedSet labels).Perm
        (required.map normalizeLabel) := by
    have split := List.filter_append_perm (fun label => decide (label ∈ normalizedSet labels))
      (required.map normalizeLabel)
    simpa [intersectionInRequiredOrder] using split
  refine ⟨whole, whole.nodup_iff.mpr distinct, ?_⟩
  intro requirement member
  rw [intersectionInRequiredOrder, List.mem_filter, decide_eq_true_eq, mem_normalizedSet]
  exact and_iff_right (List.mem_map_of_mem member)

theorem missingOf_eq_nil {kind : String} :
    missingOf kind required (normalizedSet labels) = [] ↔
      ∀ requirement ∈ required, Offers labels requirement := by
  rw [missingOf, List.map_eq_nil_iff, List.filter_eq_nil_iff]
  simp [mem_normalizedSet]

theorem matched_all (all : ∀ requirement ∈ required, Offers labels requirement) :
    intersectionInRequiredOrder required (normalizedSet labels) = required.map normalizeLabel := by
  rw [intersectionInRequiredOrder, List.filter_eq_self]
  intro label member
  obtain ⟨requirement, among, rfl⟩ := List.mem_map.mp member
  exact decide_eq_true (mem_normalizedSet.mpr (all requirement among))

theorem missingSupport_eq_nil {name : String} {demanded : Bool} {supports : Option Bool} :
    missingSupport name demanded supports = [] ↔ (demanded = true → supports = some true) := by
  cases demanded with
  | false => simp [missingSupport]
  | true =>
      match supports with
      | none => simp [missingSupport]
      | some false => simp [missingSupport]
      | some true => simp [missingSupport]

theorem supportScore_satisfied {demanded : Bool} {supports : Option Bool}
    (satisfied : demanded = true → supports = some true) :
    supportScore demanded supports = demanded.toNat := by
  cases demanded with
  | false => rfl
  | true => simp [supportScore, satisfied rfl]

end Lists

/-! One candidate. -/

section Candidates

variable {input : RoutePlanInput} {candidate : RouteCandidate}

theorem isMatch_iff : (candidateCapabilityMatch input candidate).isMatch = true ↔
    Satisfies input candidate := by
  have empty : (candidateCapabilityMatch input candidate).isMatch = true ↔
      (candidateCapabilityMatch input candidate).missingRequirements = [] := List.isEmpty_iff
  rw [empty]
  simp only [candidateCapabilityMatch, List.append_eq_nil_iff, missingOf_eq_nil,
    missingSupport_eq_nil]
  constructor
  · rintro ⟨⟨⟨⟨⟨tags, capabilities⟩, inputModes⟩, outputModes⟩, streaming⟩, pushNotifications⟩
    exact ⟨tags, capabilities, inputModes, outputModes, streaming, pushNotifications⟩
  · intro satisfied
    exact ⟨⟨⟨⟨⟨satisfied.tags, satisfied.capabilities⟩, satisfied.inputModes⟩,
      satisfied.outputModes⟩, satisfied.streaming⟩, satisfied.pushNotifications⟩

/-- All candidates that match have the same score. -/
theorem score_satisfied (satisfied : Satisfies input candidate) :
    (candidateCapabilityMatch input candidate).score =
      input.requiredTags.length + input.requiredCapabilities.length +
        input.requiredInputModes.length + input.requiredOutputModes.length +
        input.requireStreaming.toNat + input.requirePushNotifications.toNat := by
  simp only [candidateCapabilityMatch, matched_all satisfied.tags,
    matched_all satisfied.capabilities, matched_all satisfied.inputModes,
    matched_all satisfied.outputModes, supportScore_satisfied satisfied.streaming,
    supportScore_satisfied satisfied.pushNotifications, List.length_map]

theorem capabilityRequirementsPresent_iff :
    capabilityRequirementsPresent input = true ↔ Requires input := by
  simp only [capabilityRequirementsPresent, Requires, Bool.or_eq_true, Bool.not_eq_true',
    List.isEmpty_eq_false_iff, or_assoc]

end Candidates

/-! Weights. -/

section Weights

theorem scaled_lt {low high first last : Nat} (room : low < 2 ^ 52) (below : first < last) :
    (2 ^ 52 + low) * 2 ^ first < (2 ^ 52 + high) * 2 ^ last := by
  calc
    (2 ^ 52 + low) * 2 ^ first < (2 ^ 52 + 2 ^ 52) * 2 ^ first :=
      Nat.mul_lt_mul_of_pos_right (Nat.add_lt_add_left room _) (Nat.two_pow_pos first)
    _ = 2 ^ 52 * 2 ^ (first + 1) := by rw [Nat.pow_succ]; omega
    _ ≤ 2 ^ 52 * 2 ^ last := Nat.mul_le_mul_left _ (Nat.pow_le_pow_right Nat.two_pos below)
    _ ≤ (2 ^ 52 + high) * 2 ^ last := Nat.mul_le_mul_right _ (Nat.le_add_right _ _)

/-- Positive weights stand in the order of their bits. -/
theorem units_lt {left right : UInt64} (unsigned : right.toNat < 2 ^ 63)
    (below : left.toNat < right.toNat) : units left < units right := by
  simp only [units, Nat.mod_eq_of_lt unsigned, Nat.mod_eq_of_lt (Nat.lt_trans below unsigned)]
  have room : left.toNat % 2 ^ 52 < 2 ^ 52 := Nat.mod_lt _ (Nat.two_pow_pos 52)
  have leftParts := Nat.div_add_mod left.toNat (2 ^ 52)
  have rightParts := Nat.div_add_mod right.toNat (2 ^ 52)
  by_cases tiny : right.toNat < 2 ^ 52
  · rw [if_pos (Nat.lt_trans below tiny), if_pos tiny]
    exact below
  · rw [if_neg tiny]
    have whole : 2 ^ 52 ≤ (2 ^ 52 + right.toNat % 2 ^ 52) * 2 ^ (right.toNat / 2 ^ 52 - 1) :=
      Nat.le_trans (Nat.le_add_right _ _) (Nat.le_mul_of_pos_right _ (Nat.two_pow_pos _))
    by_cases small : left.toNat < 2 ^ 52
    · rw [if_pos small]
      exact Nat.lt_of_lt_of_le small whole
    · rw [if_neg small]
      rcases Nat.lt_or_ge (left.toNat / 2 ^ 52) (right.toNat / 2 ^ 52) with apart | reached
      · exact scaled_lt room (by omega)
      · have same : left.toNat / 2 ^ 52 = right.toNat / 2 ^ 52 := by omega
        rw [same]
        exact Nat.mul_lt_mul_of_pos_right (by omega) (Nat.two_pow_pos _)

theorem weight_order {left right : UInt64}
    (leftSound : isFinite left = true ∧ isPositive left = true)
    (rightSound : isFinite right = true ∧ isPositive right = true) :
    totalKey left < totalKey right ↔ units left < units right := by
  have unsigned : ∀ weight : UInt64, isPositive weight = true → weight.toNat < 2 ^ 63 := by
    intro weight positive
    have bounded : weight.toNat ≤ infinityBits :=
      of_decide_eq_true (Bool.and_eq_true_iff.mp positive).2
    exact Nat.lt_of_le_of_lt bounded (by decide)
  have leftUnsigned := unsigned left leftSound.2
  have rightUnsigned := unsigned right rightSound.2
  rw [totalKey, totalKey, if_pos leftUnsigned, if_pos rightUnsigned, Int.ofNat_lt]
  constructor
  · exact units_lt rightUnsigned
  · intro below
    by_contra reached
    rcases Nat.lt_or_eq_of_le (Nat.le_of_not_lt reached) with above | same
    · exact Nat.lt_asymm below (units_lt leftUnsigned above)
    · rw [UInt64.toNat_inj.mp same] at below
      exact Nat.lt_irrefl _ below

end Weights

/-! The selection. -/

-- The heavier candidate goes first, of two as heavy the one that was named first.
def Precedes (first last : RouteCandidate × Nat) : Prop :=
  units last.1.weight < units first.1.weight ∨
    units first.1.weight = units last.1.weight ∧ first.2 < last.2

-- The candidates that are selected, with their indices.
structure Chosen (input : RoutePlanInput) (chosen : List (RouteCandidate × Nat)) : Prop where
  distinct : (chosen.map Prod.snd).Nodup
  members : ∀ item, item ∈ chosen ↔ item ∈ input.candidates.zipIdx ∧ Satisfies input item.1
  ordered : Requires input → chosen.Pairwise Precedes

section Selection

variable {input : RoutePlanInput}

theorem mem_selection {item : RouteCandidate × Nat} :
    item ∈ capabilitySelection input ↔
      item ∈ input.candidates.zipIdx ∧ Satisfies input item.1 := by
  rw [mem_capabilitySelection, isMatch_iff]

theorem selection_ordered (checked : Checked input) (requires : Requires input) :
    (capabilitySelection input).Pairwise Precedes := by
  have present := capabilityRequirementsPresent_iff.mpr requires
  have members : ∀ item ∈ capabilitySelection input, item.1 ∈ input.candidates ∧
      Satisfies input item.1 := by
    intro item member
    have found := mem_selection.mp member
    exact ⟨List.mem_of_getElem? (List.mem_zipIdx_iff_getElem?.mp found.1), found.2⟩
  have distinct := capabilitySelection_distinct input
  have sorted : (capabilitySelection input).Pairwise fun first last =>
      toLex (OrderDual.toDual (candidateCapabilityMatch input first.1).score,
        toLex (OrderDual.toDual (totalKey first.1.weight), first.2)) ≤
      toLex (OrderDual.toDual (candidateCapabilityMatch input last.1).score,
        toLex (OrderDual.toDual (totalKey last.1.weight), last.2)) := by
    rw [capabilitySelection, if_pos present]
    exact sortByKey_ordered _ _
  have apart := List.pairwise_map.mp distinct
  apply (sorted.and apart).imp_of_mem
  intro first last early late below
  have firstMember := members first early
  have lastMember := members last late
  have order := weight_order (checked.weights last.1 lastMember.1)
    (checked.weights first.1 firstMember.1)
  have reverse := weight_order (checked.weights first.1 firstMember.1)
    (checked.weights last.1 lastMember.1)
  have keys := below.1
  -- The score is the same for both, so the weight decides and then the index.
  rw [score_satisfied firstMember.2, score_satisfied lastMember.2, Prod.Lex.toLex_le_toLex] at keys
  have weighed := (keys.resolve_left (lt_irrefl _)).2
  rw [Prod.Lex.toLex_le_toLex] at weighed
  rcases weighed with heavier | ⟨same, before⟩
  · exact .inl (order.mp heavier)
  · have level : totalKey first.1.weight = totalKey last.1.weight := same
    refine .inr ⟨?_, lt_of_le_of_ne before below.2⟩
    apply Nat.le_antisymm
    · rw [← Nat.not_lt, ← order, level]
      exact lt_irrefl _
    · rw [← Nat.not_lt, ← reverse, level]
      exact lt_irrefl _

theorem selection_chosen (checked : Checked input) : Chosen input (capabilitySelection input) where
  distinct := capabilitySelection_distinct input
  members := fun _ => mem_selection
  ordered := selection_ordered checked

end Selection

/-! The decisions, and the selection by tags alone. -/

structure Judged (input : RoutePlanInput) (candidate : RouteCandidate) (decision : RouteDecision) :
    Prop where
  agentAlias : decision.agentAlias = candidate.agentAlias
  selected : decision.selected = true ↔ Satisfies input candidate
  parted : ∃ tags capabilities inputModes outputModes,
    Parted input.requiredTags candidate.tags decision.matchedTags tags ∧
    Parted input.requiredCapabilities candidate.capabilities decision.matchedCapabilities
      capabilities ∧
    Parted input.requiredInputModes candidate.inputModes decision.matchedInputModes inputModes ∧
    Parted input.requiredOutputModes candidate.outputModes decision.matchedOutputModes
      outputModes ∧
    decision.missingRequirements =
      labelled "tag" tags ++ labelled "capability" capabilities ++
      labelled "input_mode" inputModes ++ labelled "output_mode" outputModes ++
      missingSupport "streaming" input.requireStreaming candidate.supportsStreaming ++
      missingSupport "push_notifications" input.requirePushNotifications
        candidate.supportsPushNotifications

section Decisions

variable {input : RoutePlanInput}

theorem decideEach_map {Seen : Type} {read : RouteDecision → Seen} {value : RouteCandidate → Seen}
    {make : RouteCandidate → Nat → RouteDecision}
    (each : ∀ candidate index, read (make candidate index) = value candidate) :
    (decideEach input make).map read = input.candidates.map value := by
  rw [decideEach, List.map_map]
  conv_rhs => rw [← List.zipIdx_map_fst 0 input.candidates, List.map_map]
  exact List.map_congr_left fun item _ => each item.1 item.2

theorem decisions_judged (checked : Checked input) :
    List.Forall₂ (Judged input) input.candidates (explainCapabilityMatch input).decisions := by
  rw [capability_decisions]
  apply decideEach_related
  intro candidate index
  exact {
    agentAlias := rfl
    selected := isMatch_iff
    parted := ⟨_, _, _, _, parted checked.tags, parted checked.capabilities,
      parted checked.inputModes, parted checked.outputModes, rfl⟩ }

theorem decisions_selected (input : RoutePlanInput) :
    (explainCapabilityMatch input).decisions.map RouteDecision.selected =
      input.candidates.map fun candidate => (candidateCapabilityMatch input candidate).isMatch := by
  rw [capability_decisions]
  apply decideEach_map
  intro candidate index
  rfl

theorem satisfies_tags (only : RequiresTagsOnly input) {candidate : RouteCandidate} :
    Satisfies input candidate ↔ normalizedSet input.requiredTags = ∅ ∨
      normalizedSet input.requiredTags ⊆ normalizedSet candidate.tags := by
  have tags : normalizedSet input.requiredTags ⊆ normalizedSet candidate.tags ↔
      ∀ requirement ∈ input.requiredTags, Offers candidate.tags requirement := by
    constructor
    · intro within requirement member
      exact mem_normalizedSet.mp (within (mem_normalizedSet.mpr ⟨requirement, member, rfl⟩))
    · intro all label member
      obtain ⟨requirement, among, rfl⟩ := List.mem_map.mp (List.mem_toFinset.mp member)
      exact mem_normalizedSet.mpr (all requirement among)
  constructor
  · intro satisfied
    exact .inr (tags.mpr satisfied.tags)
  · intro either
    have within : normalizedSet input.requiredTags ⊆ normalizedSet candidate.tags := by
      rcases either with empty | within
      · rw [empty]
        exact Finset.empty_subset _
      · exact within
    exact {
      tags := tags.mp within
      capabilities := by simp [only.capabilities]
      inputModes := by simp [only.inputModes]
      outputModes := by simp [only.outputModes]
      streaming := by simp [only.streaming]
      pushNotifications := by simp [only.pushNotifications] }

/-- What the selection by tags makes of the candidates from some place on. -/
theorem tagMatchFrom_selects (only : RequiresTagsOnly input) (order : Nat)
    (candidates : List RouteCandidate) :
    (tagMatchFrom input order candidates).1.map RouteDecision.selected =
      candidates.map (fun candidate => (candidateCapabilityMatch input candidate).isMatch) ∧
    (tagMatchFrom input order candidates).2 =
      (candidates.filter fun candidate => (candidateCapabilityMatch input candidate).isMatch).map
        RouteCandidate.agentAlias := by
  induction candidates generalizing order with
  | nil => exact ⟨rfl, rfl⟩
  | cons candidate rest ih =>
      rw [tagMatchFrom]
      dsimp only
      by_cases tagged : normalizedSet input.requiredTags = ∅ ∨
          normalizedSet input.requiredTags ⊆ normalizedSet candidate.tags
      · have hit := isMatch_iff.mpr ((satisfies_tags only).mpr tagged)
        obtain ⟨marks, aliases⟩ := ih (order + 1)
        rw [if_pos tagged]
        constructor
        · rw [List.map_cons, List.map_cons, marks, hit]
          rfl
        · rw [List.filter_cons_of_pos (by exact hit), List.map_cons, aliases]
      · have miss : (candidateCapabilityMatch input candidate).isMatch = false := by
          rw [Bool.eq_false_iff]
          intro hit
          exact tagged ((satisfies_tags only).mp (isMatch_iff.mp hit))
        obtain ⟨marks, aliases⟩ := ih order
        rw [if_neg tagged]
        constructor
        · rw [List.map_cons, List.map_cons, marks, miss]
          rfl
        · rw [List.filter_cons_of_neg (by simp [miss])]
          exact aliases

theorem selection_aliases (input : RoutePlanInput) :
    ((capabilitySelection input).map fun item => item.1.agentAlias).Perm
      ((input.candidates.filter fun candidate =>
        (candidateCapabilityMatch input candidate).isMatch).map RouteCandidate.agentAlias) := by
  have selection : (capabilitySelection input).Perm (input.candidates.zipIdx.filter fun item =>
      (candidateCapabilityMatch input item.1).isMatch) := by
    rw [capabilitySelection]
    split
    · exact sortByKey_perm _ _
    · exact .refl _
  have unzipped : (input.candidates.zipIdx.filter fun item =>
      (candidateCapabilityMatch input item.1).isMatch).map Prod.fst =
        input.candidates.filter fun candidate =>
          (candidateCapabilityMatch input candidate).isMatch := by
    conv_rhs => rw [← List.zipIdx_map_fst 0 input.candidates, List.filter_map]
    rfl
  rw [← unzipped, List.map_map]
  exact selection.map _

end Decisions

/-- The selection by capabilities takes exactly the candidates that satisfy the requirements, and
where only tags are required it agrees with the selection by tags. -/
theorem capability_match_exact {display : UInt64 → String} {input : RoutePlanInput}
    (policy : input.policy = .capabilityMatch) (passed : input.validate display = .ok ()) :
    ∃ made, explainRoute display input = .ok made ∧
      List.Forall₂ (Judged input) input.candidates made.decisions ∧
      (∃ chosen, Chosen input chosen ∧
        made.selected = chosen.map fun item => item.1.agentAlias) ∧
      (RequiresTagsOnly input → ∃ tagged,
        explainRoute display { input with policy := .tagMatch } = .ok tagged ∧
        tagged.decisions.map RouteDecision.selected =
          made.decisions.map RouteDecision.selected ∧
        tagged.selected.Perm made.selected) := by
  have checked := validated passed
  have explained : explainRoute display input = .ok (explainCapabilityMatch input) := by
    rw [explainRoute, passed, policy]
    rfl
  refine ⟨_, explained, decisions_judged checked, ⟨_, selection_chosen checked, rfl⟩, ?_⟩
  intro only
  have passedToo : RoutePlanInput.validate display { input with policy := .tagMatch } = .ok () :=
    passed
  have explainedToo : explainRoute display { input with policy := .tagMatch } =
      .ok (explainTagMatch { input with policy := .tagMatch }) := by
    rw [explainRoute, passedToo]
    rfl
  have selects := @tagMatchFrom_selects { input with policy := .tagMatch }
    ⟨only.capabilities, only.inputModes, only.outputModes, only.streaming, only.pushNotifications⟩
    0 input.candidates
  refine ⟨_, explainedToo, selects.1.trans (decisions_selected input).symm, ?_⟩
  have aliases : (explainTagMatch { input with policy := .tagMatch }).selected = _ := selects.2
  rw [aliases]
  exact (selection_aliases input).symm

section Builders

-- Two builders, of which the second is the heavier one, and a candidate without their tag.
def builders : RoutePlanInput :=
  { plainInput .capabilityMatch [
      { plainCandidate alpha with tags := ["Build"] },
      plainCandidate beta,
      { plainCandidate ⟨"gamma", by decide⟩ with
        tags := ["build"], weight := 0x4000000000000000 }] with
    requiredTags := [" BUILD "] }

theorem builders_selected : ∃ made, explainRoute (fun _ => "") builders = .ok made ∧
    made.decisions.map RouteDecision.selected = [true, false, true] ∧
    ∃ tagged, explainRoute (fun _ => "") { builders with policy := .tagMatch } = .ok tagged ∧
      tagged.selected.Perm made.selected := by
  have passed : builders.validate (fun _ => "") = .ok () := rfl
  obtain ⟨made, explained, _, _, agrees⟩ := capability_match_exact rfl passed
  obtain ⟨tagged, explainedToo, marks, same⟩ := agrees ⟨rfl, rfl, rfl, rfl, rfl⟩
  refine ⟨made, explained, ?_, tagged, explainedToo, same⟩
  rw [← marks]
  cases explainedToo
  rfl

end Builders

end Missive.CapabilityMatching
