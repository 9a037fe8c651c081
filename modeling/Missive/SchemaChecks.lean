import Mathlib.Data.List.TakeWhile
import Missive.ArtifactVersions
import Missive.RecordUpserts

/-! The CHECK constraints of the SQL schema over what an upsert writes, next to what the
repository validates before. The validators count bytes and the schema characters, and each has
ranges of its own. -/
namespace Missive.SchemaChecks

open JsonValue KeyedTable Missive.Core Schema Effects Repository BackgroundJobs ArtifactVersions
open RecordUpserts

/-! SQL functions. -/

-- `length(X)` counts the characters of a text before its first U+0000.
def sqlLength (text : String) : Nat := (text.toList.takeWhile (· ≠ '\x00')).length

def lengthBetween (least most : Nat) (text : String) : Bool :=
  least ≤ sqlLength text && sqlLength text ≤ most

mutual

def depth : Json → Nat
  | .array items => depthOfItems items + 1
  | .object fields => depthOfFields fields + 1
  | _ => 0

def depthOfItems : List Json → Nat
  | [] => 0
  | item :: rest => max (depth item) (depthOfItems rest)

def depthOfFields : List (String × Json) → Nat
  | [] => 0
  | (_, value) :: rest => max (depth value) (depthOfFields rest)

end

-- `json_valid` takes no more levels of arrays and objects.
def maxDepth : Nat := 1000

/-! The names of the enumerations. -/

def contextStateText : ContextState → String
  | .open => "open"
  | .closed => "closed"
  | .archived => "archived"

def artifactKindText : ArtifactKind → String
  | .text => "text"
  | .json => "json"
  | .file => "file"
  | .bytes => "bytes"
  | .unknown => "unknown"

def resetModeText : GatewaySessionResetMode → String
  | .none => "none"
  | .daily => "daily"
  | .idle => "idle"
  | .both => "both"

/-! The constraints, table by table, over the columns an upsert binds. -/

section Constraints

-- `json_valid` of SQLite on the text `serde_json` writes for a value.
variable (jsonValid : Json → Bool)

def interfaceUrlsJson (urls : List (TransportName × String)) : Json :=
  .object (urls.map fun entry => (entry.1.text, .string entry.2))

def agentsChecks (input : AgentUpsert) : List Bool :=
  [["local", "config_seed", "discovered"].contains input.source.asStr,
    jsonValid (interfaceUrlsJson input.interfaceUrls),
    jsonValid (.array (input.bindingPreference.map fun name => .string name.text)),
    jsonValid (.array (input.tags.map .string)),
    jsonValid input.metadata.toJson,
    input.agentCardJson.all jsonValid,
    [0, 1].contains input.readOnly.toNat,
    lengthBetween 1 63 input.aliasName.text,
    0 < sqlLength input.baseUrl]

def contextsChecks (input : ContextUpsert) : List Bool :=
  [["open", "closed", "archived"].contains (contextStateText input.state),
    jsonValid input.metadata.toJson,
    lengthBetween 1 256 input.contextId.text,
    input.parentContextId.all (· ≠ input.contextId)]

def tasksChecks (input : TaskUpsert) : List Bool :=
  [["submitted", "working", "input_required", "completed", "failed", "cancelled",
      "unknown"].contains input.state.asStr,
    ["remote", "local", "gateway"].contains input.source.asStr,
    input.remoteTaskJson.all jsonValid,
    jsonValid input.metadata.toJson,
    lengthBetween 1 256 input.taskId.text]

def artifactsChecks (input : ArtifactUpsert) : List Bool :=
  [["text", "json", "file", "bytes", "unknown"].contains (artifactKindText input.kind),
    1 ≤ input.version.toNat,
    input.contentJson.all jsonValid,
    jsonValid input.metadata.toJson,
    lengthBetween 1 256 input.artifactId.text]

def groupsChecks (input : GroupUpsert) : List Bool :=
  [jsonValid input.metadata.toJson,
    lengthBetween 1 63 input.groupName.text]

def groupMembersChecks (input : GroupMemberUpsert) : List Bool :=
  [jsonValid (.array (input.tags.map .string)),
    isPositive input.weight,
    jsonValid input.routingMetadata.toJson,
    lengthBetween 1 63 input.rankName.text]

def pushConfigsChecks (input : PushConfigUpsert) : List Bool :=
  [input.remoteConfigJson.all jsonValid,
    jsonValid input.metadata.toJson,
    lengthBetween 1 256 input.pushConfigId.text,
    0 < sqlLength input.callbackUrl]

def gatewayJobsChecks (input : GatewayJobUpsert) : List Bool :=
  [["queued", "running", "succeeded", "failed", "cancelled", "retrying"].contains input.state.asStr,
    jsonValid input.requestJson,
    input.resultJson.all jsonValid,
    jsonValid input.metadata.toJson,
    0 ≤ input.retryCount.toNat,
    1 ≤ input.maxAttempts.toNat,
    lengthBetween 1 256 input.gatewayJobId.text,
    lengthBetween 1 63 input.kind]

def gatewaySessionsChecks (input : GatewaySessionUpsert) : List Bool :=
  [["none", "daily", "idle", "both"].contains (resetModeText input.resetMode),
    input.dailyResetHour.toNat ≤ 23,
    input.idleTimeoutSeconds.all fun seconds => 0 < seconds.toNat,
    0 ≤ input.resetCount.toNat,
    jsonValid input.metadata.toJson,
    lengthBetween 1 256 input.gatewaySessionId.text,
    lengthBetween 1 63 input.sourceKind,
    lengthBetween 1 256 input.sourceId,
    lengthBetween 1 128 input.resumeName,
    (["idle", "both"].contains (resetModeText input.resetMode) && input.idleTimeoutSeconds.isSome) ||
      (["none", "daily"].contains (resetModeText input.resetMode) && input.idleTimeoutSeconds.isNone)]

def schemaChecks : UpsertInput → List Bool
  | .agent input => agentsChecks jsonValid input
  | .context input => contextsChecks jsonValid input
  | .task input => tasksChecks jsonValid input
  | .artifact input => artifactsChecks jsonValid input
  | .group input => groupsChecks jsonValid input
  | .groupMember input => groupMembersChecks jsonValid input
  | .pushConfig input => pushConfigsChecks jsonValid input
  | .gatewayJob input => gatewayJobsChecks jsonValid input
  | .gatewaySession input => gatewaySessionsChecks jsonValid input

-- A statement is refused when any of the constraints fails.
def SchemaAccepts (input : UpsertInput) : Prop := ∀ check ∈ schemaChecks jsonValid input, check = true

end Constraints

/-! What is left to the caller. -/

def StartsVisibly (text : String) : Prop := text.toList.head? ≠ some '\x00'

/-- The values that nothing but the schema keeps out: an artifact version of zero, a context that
is its own parent, a source kind of more than 63 characters, a text that starts with U+0000 and a
value that is nested too deeply. -/
def Storable : UpsertInput → Prop
  | .agent input => StartsVisibly input.baseUrl ∧ depth input.metadata.toJson ≤ maxDepth ∧
      ∀ card ∈ input.agentCardJson, depth card ≤ maxDepth
  | .context input => input.parentContextId ≠ some input.contextId ∧
      depth input.metadata.toJson ≤ maxDepth
  | .task input => depth input.metadata.toJson ≤ maxDepth ∧
      ∀ task ∈ input.remoteTaskJson, depth task ≤ maxDepth
  | .artifact input => input.version ≠ 0 ∧ depth input.metadata.toJson ≤ maxDepth ∧
      ∀ content ∈ input.contentJson, depth content ≤ maxDepth
  | .group input => depth input.metadata.toJson ≤ maxDepth
  | .groupMember input => depth input.routingMetadata.toJson ≤ maxDepth
  | .pushConfig input => StartsVisibly input.callbackUrl ∧ depth input.metadata.toJson ≤ maxDepth ∧
      ∀ config ∈ input.remoteConfigJson, depth config ≤ maxDepth
  | .gatewayJob input => StartsVisibly input.kind ∧ depth input.requestJson ≤ maxDepth ∧
      depth input.metadata.toJson ≤ maxDepth ∧ ∀ result ∈ input.resultJson, depth result ≤ maxDepth
  | .gatewaySession input => input.sourceKind.toList.length ≤ 63 ∧ StartsVisibly input.resumeName ∧
      depth input.metadata.toJson ≤ maxDepth

/-! Lengths. -/

theorem length_le_utf8ByteSize (text : String) : text.toList.length ≤ text.utf8ByteSize := by
  induction text using String.push_induction with
  | empty => simp
  | push text last ih =>
      have wide := Char.utf8Size_pos last
      rw [String.utf8ByteSize_push, String.toList_push, List.length_append, List.length_singleton]
      omega

theorem sqlLength_le (text : String) : sqlLength text ≤ text.toList.length :=
  List.Sublist.length_le (List.takeWhile_sublist _)

theorem sqlLength_le_bytes (text : String) : sqlLength text ≤ text.utf8ByteSize :=
  Nat.le_trans (sqlLength_le text) (length_le_utf8ByteSize text)

theorem sqlLength_pos_iff {text : String} (filled : text.isEmpty = false) :
    0 < sqlLength text ↔ StartsVisibly text := by
  rw [sqlLength, StartsVisibly]
  cases shown : text.toList with
  | nil =>
      rw [String.toList_eq_nil_iff.mp shown] at filled
      contradiction
  | cons first rest =>
      by_cases blank : first = '\x00' <;> simp [blank]

theorem sqlLength_whole {text : String} (visible : ∀ c ∈ text.toList, c ≠ '\x00') :
    sqlLength text = text.toList.length := by
  rw [sqlLength, List.takeWhile_eq_self_iff.mpr]
  simpa using visible

theorem startsVisibly {text : String} (visible : ∀ c ∈ text.toList, c ≠ '\x00') :
    StartsVisibly text := fun first => visible _ (List.mem_of_head? first) rfl

-- A text with a first character that SQL sees and few enough bytes is within the bounds.
theorem lengthBetween_of_bytes {most : Nat} {text : String} (filled : text.isEmpty = false)
    (short : text.utf8ByteSize ≤ most) :
    lengthBetween 1 most text = true ↔ StartsVisibly text := by
  have bounded := Nat.le_trans (sqlLength_le_bytes text) short
  rw [← sqlLength_pos_iff filled, lengthBetween, Bool.and_eq_true, decide_eq_true_eq,
    decide_eq_true_eq]
  exact ⟨fun fits => fits.1, fun positive => ⟨positive, bounded⟩⟩

/-! Identifiers. -/

theorem opaque_parts {value : String} (valid : opaqueReason value = none) :
    value.isEmpty = false ∧ value.utf8ByteSize ≤ 256 ∧ ∀ c ∈ value.toList, c ≠ '\x00' := by
  unfold opaqueReason at valid
  split_ifs at valid with empty long spaced controlled
  have clean : ∀ c ∈ value.toList, RustText.isControl c = false := by
    simpa using controlled
  refine ⟨by simpa using empty, by omega, ?_⟩
  rintro c listed rfl
  exact absurd (clean _ listed) (by decide)

theorem shape_parts {value allowed : String} {maxBytes : Nat} {separator : Char → Bool}
    (separated : separator '\x00' = false)
    (valid : shapeReason value maxBytes allowed separator = none) :
    value.isEmpty = false ∧ value.utf8ByteSize ≤ maxBytes ∧ ∀ c ∈ value.toList, c ≠ '\x00' := by
  unfold shapeReason at valid
  split_ifs at valid with empty long first last shaped
  have clean : ∀ c ∈ value.toList, (isLowerAlphanumeric c || separator c) = true :=
    List.all_eq_true.mp shaped
  refine ⟨by simpa using empty, by omega, ?_⟩
  rintro c listed rfl
  have kept := clean _ listed
  rw [separated] at kept
  exact absurd kept (by decide)

theorem opaqueId_fits {value : String} (valid : opaqueReason value = none) :
    lengthBetween 1 256 value = true := by
  obtain ⟨filled, short, visible⟩ := opaque_parts valid
  exact (lengthBetween_of_bytes filled short).mpr (startsVisibly visible)

theorem namedId_fits {value allowed : String}
    (valid : shapeReason value 63 allowed isNamedSeparator = none) :
    lengthBetween 1 63 value = true := by
  obtain ⟨filled, short, visible⟩ := shape_parts (by decide) valid
  exact (lengthBetween_of_bytes filled short).mpr (startsVisibly visible)

theorem validateStoreIdentifier_iff (kind value : String) :
    validateStoreIdentifier kind value = .ok () ↔ opaqueReason value = none := by
  unfold validateStoreIdentifier
  cases opaqueReason value <;> simp

/-! Nesting. -/

theorem depthOfItems_strings (texts : List String) : depthOfItems (texts.map .string) = 0 := by
  induction texts with
  | nil => rfl
  | cons text rest ih => simp [depthOfItems, depth, ih]

theorem depthOfFields_strings {Item : Type} (name text : Item → String) (items : List Item) :
    depthOfFields (items.map fun item => (name item, .string (text item))) = 0 := by
  induction items with
  | nil => rfl
  | cons item rest ih => simp [depthOfFields, depth, ih]

/-! What the checks of one input say together. -/

theorem validateLen_parts {label value : String} {maxBytes : Nat}
    (passed : validateLen label value maxBytes = .ok ()) :
    value.isEmpty = false ∧ value.utf8ByteSize ≤ maxBytes := by
  simpa using (validateLen_iff label value maxBytes).mp passed

theorem pushConfigCheck_parts {input : PushConfigUpsert} (accepted : input.check = .ok ()) :
    input.callbackUrl.isEmpty = false ∧ input.callbackUrl.utf8ByteSize ≤ 4096 := by
  obtain ⟨_, _, rest⟩ := except_bind_returned accepted
  obtain ⟨_, bounded, _⟩ := except_bind_returned rest
  exact validateLen_parts bounded

theorem gatewayJobCheck_parts {input : GatewayJobUpsert} (accepted : input.check = .ok ()) :
    (input.kind.isEmpty = false ∧ input.kind.utf8ByteSize ≤ 63) ∧ 1 ≤ input.maxAttempts.toNat := by
  obtain ⟨_, bounded, counted⟩ := except_bind_returned accepted
  refine ⟨validateLen_parts bounded, ?_⟩
  by_cases none : input.maxAttempts = 0
  · rw [validateGatewayAttempts, if_pos none] at counted
    contradiction
  · have same : input.maxAttempts.toNat = (0 : UInt32).toNat ↔ input.maxAttempts = 0 :=
      UInt32.toNat_inj
    exact Nat.one_le_iff_ne_zero.mpr fun zero => none (same.mp zero)

-- The two columns of the reset policy agree with each other once the policy is valid.
theorem resetPolicy_parts {mode : GatewaySessionResetMode} {hour : UInt8} {idle : Option UInt64}
    (accepted : validateGatewaySessionResetPolicy mode hour idle = .ok ()) :
    hour.toNat ≤ 23 ∧ (idle.all fun seconds => 0 < seconds.toNat) = true ∧
      ((["idle", "both"].contains (resetModeText mode) && idle.isSome) ||
        (["none", "daily"].contains (resetModeText mode) && idle.isNone)) = true := by
  by_cases late : 23 < hour.toNat
  · rw [validateGatewaySessionResetPolicy, if_pos late] at accepted
    contradiction
  · rw [validateGatewaySessionResetPolicy, if_neg late] at accepted
    refine ⟨Nat.le_of_not_lt late, ?_⟩
    cases idle with
    | none =>
        refine ⟨rfl, ?_⟩
        cases mode with
        | none => decide
        | daily => decide
        | idle => contradiction
        | both => contradiction
    | some seconds =>
        have counted : seconds ≠ 0 := by
          rintro rfl
          cases mode <;> contradiction
        have same : seconds.toNat = (0 : UInt64).toNat ↔ seconds = 0 := UInt64.toNat_inj
        have positive : 0 < seconds.toNat :=
          Nat.pos_of_ne_zero fun zero => counted (same.mp zero)
        refine ⟨decide_eq_true positive, ?_⟩
        cases mode with
        | none => contradiction
        | daily => contradiction
        | idle => simp [resetModeText]
        | both => simp [resetModeText]

theorem gatewaySessionCheck_parts {input : GatewaySessionUpsert} (accepted : input.check = .ok ()) :
    opaqueReason input.sourceKind = none ∧ opaqueReason input.sourceId = none ∧
      (input.resumeName.isEmpty = false ∧ input.resumeName.utf8ByteSize ≤ 128) ∧
      validateGatewaySessionResetPolicy input.resetMode input.dailyResetHour
        input.idleTimeoutSeconds = .ok () := by
  obtain ⟨_, kind, rest⟩ := except_bind_returned accepted
  obtain ⟨_, source, rest⟩ := except_bind_returned rest
  obtain ⟨_, resumed, rest⟩ := except_bind_returned rest
  obtain ⟨_, policy, _⟩ := except_bind_returned rest
  exact ⟨(validateStoreIdentifier_iff _ _).mp kind, (validateStoreIdentifier_iff _ _).mp source,
    validateLen_parts resumed, policy⟩

section Tables

variable {jsonValid : Json → Bool}
variable (documented : ∀ value, jsonValid value = true ↔ depth value ≤ maxDepth)

include documented

attribute [local simp] Storable

theorem texts_valid (texts : List String) : jsonValid (.array (texts.map .string)) = true := by
  rw [documented, depth, depthOfItems_strings]
  decide

theorem bindings_valid (names : List TransportName) :
    jsonValid (.array (names.map fun name => .string name.text)) = true := by
  have shown : names.map (fun name => Json.string name.text) = (names.map Id.text).map .string := by
    simp
  rw [shown]
  exact texts_valid documented _

theorem interfaceUrls_valid (urls : List (TransportName × String)) :
    jsonValid (interfaceUrlsJson urls) = true := by
  rw [documented, interfaceUrlsJson, depth,
    depthOfFields_strings (fun entry => entry.1.text) (fun entry => entry.2) urls]
  decide

theorem optional_iff (value : Option Json) :
    value.all jsonValid = true ↔ ∀ held ∈ value, depth held ≤ maxDepth := by
  cases value with
  | none => simp
  | some held => simpa using documented held

theorem agent_iff {input : AgentUpsert}
    (accepted : validateNonEmpty "agent base_url" input.baseUrl = .ok ()) :
    SchemaAccepts jsonValid (.agent input) ↔ Storable (.agent input) := by
  have filled : input.baseUrl.isEmpty = false := by
    cases empty : input.baseUrl.isEmpty with
    | false => rfl
    | true => simp [validateNonEmpty, empty] at accepted
  have source : ["local", "config_seed", "discovered"].contains input.source.asStr = true := by
    cases input.source <;> decide
  have flag : [0, 1].contains input.readOnly.toNat = true := by
    cases input.readOnly <;> decide
  have named : lengthBetween 1 63 input.aliasName.text = true := namedId_fits input.aliasName.valid
  simp only [SchemaAccepts, schemaChecks, agentsChecks, List.forall_mem_cons, source, flag, named,
    interfaceUrls_valid documented, bindings_valid documented, texts_valid documented,
    optional_iff documented, documented, sqlLength_pos_iff filled, decide_eq_true_eq, true_and,
    Storable, List.not_mem_nil, false_implies, implies_true, and_true]
  tauto

theorem context_iff (input : ContextUpsert) :
    SchemaAccepts jsonValid (.context input) ↔ Storable (.context input) := by
  have state : ["open", "closed", "archived"].contains (contextStateText input.state) = true := by
    cases input.state <;> decide
  have named : lengthBetween 1 256 input.contextId.text = true := opaqueId_fits input.contextId.valid
  have apart : input.parentContextId.all (· ≠ input.contextId) = true ↔
      input.parentContextId ≠ some input.contextId := by
    cases input.parentContextId <;> simp
  simp only [SchemaAccepts, schemaChecks, contextsChecks, List.forall_mem_cons, state, named, apart,
    documented, true_and, Storable, List.not_mem_nil, false_implies, implies_true, and_true]
  exact and_comm

theorem task_iff (input : TaskUpsert) :
    SchemaAccepts jsonValid (.task input) ↔ Storable (.task input) := by
  have state : ["submitted", "working", "input_required", "completed", "failed", "cancelled",
      "unknown"].contains input.state.asStr = true := by
    cases input.state <;> decide
  have source : ["remote", "local", "gateway"].contains input.source.asStr = true := by
    cases input.source <;> decide
  have named : lengthBetween 1 256 input.taskId.text = true := opaqueId_fits input.taskId.valid
  simp only [SchemaAccepts, schemaChecks, tasksChecks, List.forall_mem_cons, state, source, named,
    optional_iff documented, documented, true_and, Storable, List.not_mem_nil, false_implies,
    implies_true, and_true]
  exact and_comm

theorem artifact_iff (input : ArtifactUpsert) :
    SchemaAccepts jsonValid (.artifact input) ↔ Storable (.artifact input) := by
  have kind : ["text", "json", "file", "bytes", "unknown"].contains
      (artifactKindText input.kind) = true := by
    cases input.kind <;> decide
  have named : lengthBetween 1 256 input.artifactId.text = true :=
    opaqueId_fits input.artifactId.valid
  have counted : 1 ≤ input.version.toNat ↔ input.version ≠ 0 := by
    have same : input.version.toNat = (0 : UInt64).toNat ↔ input.version = 0 := UInt64.toNat_inj
    exact Nat.one_le_iff_ne_zero.trans (not_congr same)
  simp only [SchemaAccepts, schemaChecks, artifactsChecks, List.forall_mem_cons, kind, named,
    counted, optional_iff documented, documented, decide_eq_true_eq, true_and, Storable,
    List.not_mem_nil, false_implies, implies_true, and_true]
  tauto

theorem group_iff (input : GroupUpsert) :
    SchemaAccepts jsonValid (.group input) ↔ Storable (.group input) := by
  have named : lengthBetween 1 63 input.groupName.text = true := namedId_fits input.groupName.valid
  simp [SchemaAccepts, schemaChecks, groupsChecks, named, documented]

theorem groupMember_iff {display : UInt64 → String} {input : GroupMemberUpsert}
    (accepted : validatePositiveWeight display input.weight = .ok ()) :
    SchemaAccepts jsonValid (.groupMember input) ↔ Storable (.groupMember input) := by
  have positive : isPositive input.weight = true := by
    by_cases kept : (isFinite input.weight && isPositive input.weight) = true
    · exact (Bool.and_eq_true_iff.mp kept).2
    · rw [validatePositiveWeight, if_neg kept] at accepted
      contradiction
  have named : lengthBetween 1 63 input.rankName.text = true := namedId_fits input.rankName.valid
  simp [SchemaAccepts, schemaChecks, groupMembersChecks, positive, named, texts_valid documented,
    documented]

theorem pushConfig_iff {input : PushConfigUpsert} (accepted : input.check = .ok ()) :
    SchemaAccepts jsonValid (.pushConfig input) ↔ Storable (.pushConfig input) := by
  have filled := (pushConfigCheck_parts accepted).1
  have named : lengthBetween 1 256 input.pushConfigId.text = true :=
    opaqueId_fits input.pushConfigId.valid
  simp only [SchemaAccepts, schemaChecks, pushConfigsChecks, List.forall_mem_cons, named,
    sqlLength_pos_iff filled, optional_iff documented, documented, decide_eq_true_eq, true_and,
    Storable, List.not_mem_nil, false_implies, implies_true, and_true]
  tauto

theorem gatewayJob_iff {input : GatewayJobUpsert} (accepted : input.check = .ok ()) :
    SchemaAccepts jsonValid (.gatewayJob input) ↔ Storable (.gatewayJob input) := by
  obtain ⟨⟨filled, short⟩, counted⟩ := gatewayJobCheck_parts accepted
  have state : ["queued", "running", "succeeded", "failed", "cancelled",
      "retrying"].contains input.state.asStr = true := by
    cases input.state <;> decide
  have named : lengthBetween 1 256 input.gatewayJobId.text = true :=
    opaqueId_fits input.gatewayJobId.valid
  simp only [SchemaAccepts, schemaChecks, gatewayJobsChecks, List.forall_mem_cons, state, named,
    counted, Nat.zero_le, lengthBetween_of_bytes filled short, optional_iff documented, documented,
    decide_eq_true_eq, true_and, Storable, List.not_mem_nil, false_implies, implies_true, and_true]
  tauto

theorem gatewaySession_iff {input : GatewaySessionUpsert} (accepted : input.check = .ok ()) :
    SchemaAccepts jsonValid (.gatewaySession input) ↔ Storable (.gatewaySession input) := by
  obtain ⟨kind, source, ⟨filled, short⟩, policy⟩ := gatewaySessionCheck_parts accepted
  obtain ⟨hour, timeout, agreed⟩ := resetPolicy_parts policy
  have mode : ["none", "daily", "idle", "both"].contains (resetModeText input.resetMode) = true := by
    cases input.resetMode <;> decide
  have named : lengthBetween 1 256 input.gatewaySessionId.text = true :=
    opaqueId_fits input.gatewaySessionId.valid
  have identity : lengthBetween 1 256 input.sourceId = true := opaqueId_fits source
  have kinds : lengthBetween 1 63 input.sourceKind = true ↔ input.sourceKind.toList.length ≤ 63 := by
    obtain ⟨present, _, visible⟩ := opaque_parts kind
    have positive := (sqlLength_pos_iff present).mpr (startsVisibly visible)
    rw [sqlLength_whole visible] at positive
    rw [lengthBetween, Bool.and_eq_true, decide_eq_true_eq, decide_eq_true_eq,
      sqlLength_whole visible]
    exact ⟨fun fits => fits.2, fun short => ⟨positive, short⟩⟩
  simp only [SchemaAccepts, schemaChecks, gatewaySessionsChecks, List.forall_mem_cons, mode, hour,
    timeout, agreed, named, identity, kinds, Nat.zero_le, lengthBetween_of_bytes filled short,
    documented, decide_eq_true_eq, true_and, Storable, List.not_mem_nil, false_implies,
    implies_true, and_true]
  tauto

/-- What the repository accepts is accepted by the schema exactly when it is none of the values
that only the schema keeps out. -/
theorem schemaAccepts_iff (display : UInt64 → String) (input : UpsertInput)
    (accepted : input.check display = .ok ()) :
    SchemaAccepts jsonValid input ↔ Storable input := by
  cases input with
  | agent input => exact agent_iff documented accepted
  | context input => exact context_iff documented input
  | task input => exact task_iff documented input
  | artifact input => exact artifact_iff documented input
  | group input => exact group_iff documented input
  | groupMember input => exact groupMember_iff documented accepted
  | pushConfig input => exact pushConfig_iff documented accepted
  | gatewayJob input => exact gatewayJob_iff documented accepted
  | gatewaySession input => exact gatewaySession_iff documented accepted

end Tables

/-! One artifact and one session that are accepted and then refused. -/

def documentedJsonValid (value : Json) : Bool := depth value ≤ maxDepth

theorem documentedJsonValid_iff (value : Json) :
    documentedJsonValid value = true ↔ depth value ≤ maxDepth := decide_eq_true_iff

def unversionedId : ArtifactId := ⟨"unversioned-report", by decide⟩

def unversionedArtifact : ArtifactUpsert :=
  { ArtifactUpsert.new unversionedId Artifacts.firstTask with version := 0 }

def chattySessionId : GatewaySessionId := ⟨"chatty-session", by decide⟩

def sessionOf (sourceKind : String) : GatewaySessionUpsert :=
  .new chattySessionId sourceKind "room-1" Artifacts.echoAgent "default" Artifacts.sharedContext ⟨0⟩

-- One character more than the schema has room for.
def wideKind : String := String.ofList (List.replicate 64 'k')

-- Only a weight that is refused gets printed.
def plainDisplay (weight : UInt64) : String := toString weight.toNat

/-- Neither a version of zero nor a source kind of 64 characters is a validation error. -/
theorem accepted_then_refused :
    ((UpsertInput.artifact unversionedArtifact).check plainDisplay = .ok () ∧
      ¬ SchemaAccepts documentedJsonValid (.artifact unversionedArtifact)) ∧
    (UpsertInput.gatewaySession (sessionOf wideKind)).check plainDisplay = .ok () ∧
      ¬ SchemaAccepts documentedJsonValid (.gatewaySession (sessionOf wideKind)) := by
  have artifact : ¬ Storable (.artifact unversionedArtifact) := fun kept => kept.1 rfl
  have session : ¬ Storable (.gatewaySession (sessionOf wideKind)) :=
    fun kept => absurd kept.1 (by decide)
  have versioned : unversionedArtifact.check = .ok () := rfl
  have opened : (sessionOf wideKind).check = .ok () := by rfl
  exact ⟨⟨versioned, fun kept => artifact ((artifact_iff documentedJsonValid_iff _).mp kept)⟩,
    opened, fun kept => session ((gatewaySession_iff documentedJsonValid_iff opened).mp kept)⟩

-- A session of a kind with a name of usual length passes both.
theorem schemaAccepts_webhook :
    (UpsertInput.gatewaySession (sessionOf "webhook")).check plainDisplay = .ok () ∧
      SchemaAccepts documentedJsonValid (.gatewaySession (sessionOf "webhook")) := by
  have opened : (UpsertInput.gatewaySession (sessionOf "webhook")).check plainDisplay = .ok () := by
    rfl
  have visible : StartsVisibly "default" := fun first => by simp at first
  have kept : Storable (.gatewaySession (sessionOf "webhook")) :=
    ⟨by decide, visible, by decide⟩
  exact ⟨opened, (schemaAccepts_iff documentedJsonValid_iff plainDisplay _ opened).mpr kept⟩

end Missive.SchemaChecks
