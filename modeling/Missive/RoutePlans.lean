import Mathlib.Algebra.Group.Int.Defs
import Mathlib.Data.Finset.Dedup
import Mathlib.Data.Finset.Insert
import Missive.LastMax
import Missive.OrderedLists
import Missive.RecordUpserts

/-! `explain_route`: the dry-run plans of the routing policies. What a candidate carries and no
policy reads, its metadata and the status of its cached card, is left out. -/
namespace Missive.RoutePlans

open RustText Missive.Core LastMax OrderedLists RecordUpserts

inductive RoutingPolicyKind where
  | direct
  | capabilityMatch
  | tagMatch
  | roundRobin
  | weighted
  | broadcast
  | firstSuccess
  | quorum
  | fallback
  deriving DecidableEq

structure RouteCandidate where
  agentAlias : AgentAlias
  rank : Option RankName
  tags : List String
  capabilities : List String
  inputModes : List String
  outputModes : List String
  supportsStreaming : Option Bool
  supportsPushNotifications : Option Bool
  weight : UInt64
  deriving DecidableEq

structure RoutePlanInput where
  policy : RoutingPolicyKind
  candidates : List RouteCandidate
  preferredAgent : Option AgentAlias
  requiredTags : List String
  requiredCapabilities : List String
  requiredInputModes : List String
  requiredOutputModes : List String
  requireStreaming : Bool
  requirePushNotifications : Bool
  roundRobinCursor : UInt64
  quorum : Option Nat

structure RouteDecision where
  agentAlias : AgentAlias
  rank : Option RankName
  selected : Bool
  order : Option Nat
  weight : UInt64
  reason : String
  matchedTags : List String
  matchedCapabilities : List String
  matchedInputModes : List String
  matchedOutputModes : List String
  missingRequirements : List String

structure RoutePlan where
  policy : RoutingPolicyKind
  mode : String
  status : String
  totalCandidates : Nat
  selected : List AgentAlias
  decisions : List RouteDecision
  requiredQuorum : Option Nat
  nextRoundRobinCursor : Option UInt64

/-! Weights are `f64`s, kept as their bits. -/

-- What `total_cmp` compares: the magnitude, turned round under a negative sign.
def totalKey (weight : UInt64) : Int :=
  if weight.toNat < 2 ^ 63 then weight.toNat else 2 ^ 63 - 1 - (weight.toNat : Int)

-- A finite value without its sign, as a multiple of the least positive one, `2 ^ -1074`.
def units (weight : UInt64) : Nat :=
  let magnitude := weight.toNat % 2 ^ 63
  if magnitude < 2 ^ 52 then magnitude
  else (2 ^ 52 + magnitude % 2 ^ 52) * 2 ^ (magnitude / 2 ^ 52 - 1)

-- `(left - right).abs() < f64::EPSILON` for positive values: `f64::EPSILON` is `2 ^ 1022` units, and
-- what is at most `2 ^ 968` units below it is rounded to it.
def withinEpsilon (left right : UInt64) : Bool :=
  max (units left) (units right) - min (units left) (units right) < 2 ^ 1022 - 2 ^ 968

/-! Labels. -/

def normalizeLabel (label : String) : String :=
  String.ofList (lowercase (JsonRedaction.trim label.toList))

def normalizedSet (labels : List String) : Finset String := (labels.map normalizeLabel).toFinset

def intersectionInRequiredOrder (required : List String) (available : Finset String) : List String :=
  (required.map normalizeLabel).filter fun label => label ∈ available

def validateLabelsAfter (kind : String) (seen : Finset String) : List String → Except MissiveError Unit
  | [] => .ok ()
  | label :: rest =>
      if normalizeLabel label = "" then .error (.validation s!"{kind} labels cannot be empty")
      else if normalizeLabel label ∈ seen then
        .error (.validation s!"duplicate {kind} label {debug label}")
      else validateLabelsAfter kind (insert (normalizeLabel label) seen) rest

def validateLabels (kind : String) (labels : List String) : Except MissiveError Unit :=
  validateLabelsAfter kind ∅ labels

def validateQuorum (quorum candidates : Nat) : Except MissiveError Unit :=
  if quorum = 0 ∨ candidates < quorum then
    .error ((MissiveError.validation
      s!"quorum must be between 1 and the candidate count ({candidates}); got {quorum}").withHelp
        "Lower --quorum or add more candidates to the group.")
  else .ok ()

-- `display` prints an `f64`.
def RouteCandidate.validate (display : UInt64 → String) (candidate : RouteCandidate) :
    Except MissiveError Unit := do
  if isFinite candidate.weight && isPositive candidate.weight then
    validateLabels "tag" candidate.tags
    validateLabels "capability" candidate.capabilities
    validateLabels "input mode" candidate.inputModes
    validateLabels "output mode" candidate.outputModes
  else .error (.validation (s!"route candidate {debug candidate.agentAlias.text} has invalid weight " ++
    s!"{display candidate.weight}; weights must be positive finite numbers"))

def RoutePlanInput.validate (display : UInt64 → String) (input : RoutePlanInput) :
    Except MissiveError Unit := do
  if input.candidates.isEmpty then
    .error ((MissiveError.validation "route explanation requires at least one candidate").withHelp
      "Pass --agent at least once or choose a non-empty --group.")
  else
    input.candidates.forM (RouteCandidate.validate display)
    validateLabels "required tag" input.requiredTags
    validateLabels "required capability" input.requiredCapabilities
    validateLabels "required input mode" input.requiredInputModes
    validateLabels "required output mode" input.requiredOutputModes
    match input.quorum with
    | some quorum => validateQuorum quorum input.candidates.length
    | none => .ok ()

/-! Decisions and plans. -/

structure DecisionRequirementDetails where
  matchedTags : List String
  matchedCapabilities : List String
  matchedInputModes : List String
  matchedOutputModes : List String
  missingRequirements : List String

def decisionWithDetails (candidate : RouteCandidate) (selected : Bool) (order : Option Nat)
    (reason : String) (details : DecisionRequirementDetails) : RouteDecision where
  agentAlias := candidate.agentAlias
  rank := candidate.rank
  selected := selected
  order := order
  weight := candidate.weight
  reason := reason
  matchedTags := details.matchedTags
  matchedCapabilities := details.matchedCapabilities
  matchedInputModes := details.matchedInputModes
  matchedOutputModes := details.matchedOutputModes
  missingRequirements := details.missingRequirements

def decision (candidate : RouteCandidate) (selected : Bool) (order : Option Nat) (reason : String)
    (matchedTags matchedCapabilities : List String) : RouteDecision :=
  decisionWithDetails candidate selected order reason ⟨matchedTags, matchedCapabilities, [], [], []⟩

def plan (input : RoutePlanInput) (mode status : String) (selected : List AgentAlias)
    (decisions : List RouteDecision) (requiredQuorum : Option Nat)
    (nextRoundRobinCursor : Option UInt64) : RoutePlan where
  policy := input.policy
  mode := mode
  status := status
  totalCandidates := input.candidates.length
  selected := selected
  decisions := decisions
  requiredQuorum := requiredQuorum
  nextRoundRobinCursor := nextRoundRobinCursor

def statusOf (selected : List AgentAlias) : String :=
  if selected.isEmpty then "no_match" else "selected"

-- One decision for each candidate, made from its index.
def decideEach (input : RoutePlanInput) (make : RouteCandidate → Nat → RouteDecision) :
    List RouteDecision :=
  input.candidates.zipIdx.map fun item => make item.1 item.2

-- The alias under an index, of which there is one when the index is in range.
def aliasAt (input : RoutePlanInput) (index : Nat) : List AgentAlias :=
  (input.candidates[index]?.map RouteCandidate.agentAlias).toList

def preferredIndexOrFirst (input : RoutePlanInput) : Except MissiveError Nat :=
  match input.preferredAgent with
  | some preferred =>
      match input.candidates.findIdx? fun candidate => candidate.agentAlias = preferred with
      | some index => .ok index
      | none => .error ((MissiveError.validation
          s!"preferred agent {debug preferred.text} is not in the route candidate set").withHelp
            "Pass a registered --agent candidate or choose a group containing the preferred agent.")
  | none => .ok 0

/-! The policies that select one candidate. -/

def explainSingle (input : RoutePlanInput) (selectedIndex : Nat)
    (reason : RouteCandidate → Bool → String) (next : Option UInt64) : RoutePlan :=
  plan input "single" "selected" (aliasAt input selectedIndex)
    (decideEach input fun candidate index =>
      decision candidate (index = selectedIndex) (if index = selectedIndex then some 0 else none)
        (reason candidate (index = selectedIndex)) [] []) none next

def explainDirect (input : RoutePlanInput) : Except MissiveError RoutePlan := do
  let selectedIndex ← preferredIndexOrFirst input
  .ok (explainSingle input selectedIndex (fun _ isSelected =>
    if isSelected then
      if input.preferredAgent.isSome then "preferred direct target"
      else "first candidate selected by direct policy"
    else "not selected by direct policy") none)

-- `saturating_add(1)`
def nextCursor (cursor : UInt64) : UInt64 := .ofNat (min (cursor.toNat + 1) (2 ^ 64 - 1))

def explainRoundRobin (input : RoutePlanInput) : RoutePlan :=
  explainSingle input (input.roundRobinCursor.toNat % input.candidates.length) (fun _ isSelected =>
    if isSelected then "selected by round-robin cursor" else "not selected for this cursor")
    (some (nextCursor input.roundRobinCursor))

-- The greatest weight and, among those, the first candidate. The input was checked not to be empty.
def heaviest (input : RoutePlanInput) : Option (RouteCandidate × Nat) :=
  maxByKey (fun item => toLex (totalKey item.1.weight, OrderDual.toDual item.2))
    input.candidates.zipIdx

def explainWeighted (input : RoutePlanInput) : RoutePlan :=
  explainSingle input ((heaviest input).elim 0 Prod.snd) (fun candidate isSelected =>
    if isSelected then "highest weight selected; ties keep deterministic candidate order"
    else if (heaviest input).any fun item => withinEpsilon candidate.weight item.1.weight then
      "same weight as selected candidate but later in deterministic order"
    else "lower weight than selected candidate") none

/-! The policies that select all candidates. -/

def selectAll (input : RoutePlanInput) (mode reason : String) (requiredQuorum : Option Nat) :
    RoutePlan :=
  plan input mode "selected" (input.candidates.map RouteCandidate.agentAlias)
    (decideEach input fun candidate index => decision candidate true (some index) reason [] [])
    requiredQuorum none

def explainAll (input : RoutePlanInput) (mode reason : String) : RoutePlan :=
  selectAll input mode reason none

def explainQuorum (input : RoutePlanInput) : Except MissiveError RoutePlan := do
  let quorum := input.quorum.getD (input.candidates.length / 2 + 1)
  validateQuorum quorum input.candidates.length
  .ok (selectAll input "quorum" "candidate participates in quorum attempt set" (some quorum))

def fallbackIndices (input : RoutePlanInput) (primaryIndex : Nat) : List Nat :=
  primaryIndex :: (List.range input.candidates.length).filter fun index => index != primaryIndex

def explainFallback (input : RoutePlanInput) : Except MissiveError RoutePlan := do
  let primaryIndex ← preferredIndexOrFirst input
  let selectedIndices := fallbackIndices input primaryIndex
  .ok (plan input "ordered_attempts" "selected" (selectedIndices.flatMap (aliasAt input))
    (decideEach input fun candidate index =>
      decision candidate true (selectedIndices.idxOf? index)
        (if index = primaryIndex then "primary fallback target" else "fallback candidate") [] [])
    none none)

/-! The policies that filter the candidates. -/

-- The decisions on the candidates from some place on, and the aliases of those selected.
def tagMatchFrom (input : RoutePlanInput) (order : Nat) :
    List RouteCandidate → List RouteDecision × List AgentAlias
  | [] => ([], [])
  | candidate :: rest =>
      let required := normalizedSet input.requiredTags
      let available := normalizedSet candidate.tags
      let matched := intersectionInRequiredOrder input.requiredTags available
      if required = ∅ ∨ required ⊆ available then
        let later := tagMatchFrom input (order + 1) rest
        (decision candidate true (some order)
          (if required = ∅ then "no required tags; candidate remains eligible"
            else "candidate satisfies required tags") matched [] :: later.1,
          candidate.agentAlias :: later.2)
      else
        let later := tagMatchFrom input order rest
        (decision candidate false none "candidate is missing one or more required tags" matched [] ::
          later.1, later.2)

def explainTagMatch (input : RoutePlanInput) : RoutePlan :=
  let made := tagMatchFrom input 0 input.candidates
  plan input "filter" (statusOf made.2) made.2 made.1 none none

structure CapabilityMatchOutcome where
  isMatch : Bool
  matchedTags : List String
  matchedCapabilities : List String
  matchedInputModes : List String
  matchedOutputModes : List String
  missingRequirements : List String
  score : Nat

-- `push_missing_requirements`, as what it pushes.
def missingOf (kind : String) (required : List String) (available : Finset String) : List String :=
  ((required.map normalizeLabel).filter fun label => label ∉ available).map fun label =>
    s!"{kind}:{label}"

-- What is pushed for a support flag that is required.
def missingSupport (name : String) (required : Bool) (supports : Option Bool) : List String :=
  if required then
    match supports with
    | some true => []
    | some false => [s!"{name}:false"]
    | none => [s!"{name}:unknown"]
  else []

def supportScore (required : Bool) (supports : Option Bool) : Nat :=
  if required && supports = some true then 1 else 0

def candidateCapabilityMatch (input : RoutePlanInput) (candidate : RouteCandidate) :
    CapabilityMatchOutcome :=
  let availableTags := normalizedSet candidate.tags
  let availableCapabilities := normalizedSet candidate.capabilities
  let availableInputModes := normalizedSet candidate.inputModes
  let availableOutputModes := normalizedSet candidate.outputModes
  let matchedTags := intersectionInRequiredOrder input.requiredTags availableTags
  let matchedCapabilities :=
    intersectionInRequiredOrder input.requiredCapabilities availableCapabilities
  let matchedInputModes := intersectionInRequiredOrder input.requiredInputModes availableInputModes
  let matchedOutputModes :=
    intersectionInRequiredOrder input.requiredOutputModes availableOutputModes
  let missingRequirements :=
    missingOf "tag" input.requiredTags availableTags ++
    missingOf "capability" input.requiredCapabilities availableCapabilities ++
    missingOf "input_mode" input.requiredInputModes availableInputModes ++
    missingOf "output_mode" input.requiredOutputModes availableOutputModes ++
    missingSupport "streaming" input.requireStreaming candidate.supportsStreaming ++
    missingSupport "push_notifications" input.requirePushNotifications
      candidate.supportsPushNotifications
  { isMatch := missingRequirements.isEmpty
    matchedTags := matchedTags
    matchedCapabilities := matchedCapabilities
    matchedInputModes := matchedInputModes
    matchedOutputModes := matchedOutputModes
    missingRequirements := missingRequirements
    score := matchedTags.length + matchedCapabilities.length + matchedInputModes.length +
      matchedOutputModes.length +
      supportScore input.requireStreaming candidate.supportsStreaming +
      supportScore input.requirePushNotifications candidate.supportsPushNotifications }

def capabilityRequirementsPresent (input : RoutePlanInput) : Bool :=
  !input.requiredTags.isEmpty || !input.requiredCapabilities.isEmpty ||
    !input.requiredInputModes.isEmpty || !input.requiredOutputModes.isEmpty ||
    input.requireStreaming || input.requirePushNotifications

def capabilityReason (isMatch hasRequirements : Bool) (missing : List String) : String :=
  if isMatch then
    if hasRequirements then
      "candidate satisfies capability, tag, mode, streaming, and push requirements; " ++
        "ties use score, weight, then deterministic candidate order"
    else "no required capabilities, tags, modes, streaming, or push support; " ++
      "candidate remains eligible"
  else if missing.any fun value => value.toList.reverse.take 8 = ":unknown".toList.reverse then
    "candidate is missing required Agent Card capability data; " ++
      "refresh the Agent Card cache and inspect missing_requirements"
  else "candidate is missing one or more capability requirements; inspect missing_requirements"

-- The candidates that match, with their indices, best first when something is required.
def capabilitySelection (input : RoutePlanInput) : List (RouteCandidate × Nat) :=
  let matching := input.candidates.zipIdx.filter fun item =>
    (candidateCapabilityMatch input item.1).isMatch
  if capabilityRequirementsPresent input then
    sortByKey (fun item => toLex (OrderDual.toDual (candidateCapabilityMatch input item.1).score,
      toLex (OrderDual.toDual (totalKey item.1.weight), item.2))) matching
  else matching

def explainCapabilityMatch (input : RoutePlanInput) : RoutePlan :=
  let selection := capabilitySelection input
  let selected := selection.map fun item => item.1.agentAlias
  plan input "filter" (statusOf selected) selected
    (decideEach input fun candidate index =>
      let outcome := candidateCapabilityMatch input candidate
      decisionWithDetails candidate outcome.isMatch ((selection.map Prod.snd).idxOf? index)
        (capabilityReason outcome.isMatch (capabilityRequirementsPresent input)
          outcome.missingRequirements)
        ⟨outcome.matchedTags, outcome.matchedCapabilities, outcome.matchedInputModes,
          outcome.matchedOutputModes, outcome.missingRequirements⟩) none none

def explainRoute (display : UInt64 → String) (input : RoutePlanInput) :
    Except MissiveError RoutePlan := do
  input.validate display
  match input.policy with
  | .direct => explainDirect input
  | .capabilityMatch => .ok (explainCapabilityMatch input)
  | .tagMatch => .ok (explainTagMatch input)
  | .roundRobin => .ok (explainRoundRobin input)
  | .weighted => .ok (explainWeighted input)
  | .broadcast => .ok (explainAll input "all" "broadcast")
  | .firstSuccess => .ok (explainAll input "ordered_attempts" "first-success-attempt-order")
  | .quorum => explainQuorum input
  | .fallback => explainFallback input

/-! The least that passes the checks. -/

def alpha : AgentAlias := ⟨"alpha", by decide⟩

def beta : AgentAlias := ⟨"beta", by decide⟩

-- A candidate of weight one.
def plainCandidate (agentAlias : AgentAlias) : RouteCandidate where
  agentAlias := agentAlias
  rank := none
  tags := []
  capabilities := []
  inputModes := []
  outputModes := []
  supportsStreaming := none
  supportsPushNotifications := none
  weight := 0x3FF0000000000000

def plainInput (policy : RoutingPolicyKind) (candidates : List RouteCandidate) : RoutePlanInput where
  policy := policy
  candidates := candidates
  preferredAgent := none
  requiredTags := []
  requiredCapabilities := []
  requiredInputModes := []
  requiredOutputModes := []
  requireStreaming := false
  requirePushNotifications := false
  roundRobinCursor := 0
  quorum := none

end Missive.RoutePlans
