import Missive.BackgroundJobs

/-! The inputs of the repository's other upserts (groups, group members, push configs and
gateway sessions) and what it checks of each of them before it writes. -/
namespace Missive.RecordUpserts

open JsonValue KeyedTable Missive.Core Schema Effects Repository BackgroundJobs

/-! Groups. -/

structure GroupUpsert where
  groupName : GroupName
  routingPolicy : String
  notes : Option String
  metadata : Metadata

def GroupUpsert.check (input : GroupUpsert) : Except MissiveError Unit :=
  validateNonEmpty "group routing_policy" input.routingPolicy

/-! Group members. The weight is an `f64`, kept as its bits: one for the sign, eleven for the
exponent and the rest for the fraction. -/

def infinityBits : Nat := 2047 * 2 ^ 52

def isFinite (weight : UInt64) : Bool := weight.toNat % 2 ^ 63 < infinityBits

-- `weight > 0.0`, which no NaN is.
def isPositive (weight : UInt64) : Bool := 0 < weight.toNat && weight.toNat ≤ infinityBits

structure GroupMemberUpsert where
  groupName : GroupName
  agentAlias : AgentAlias
  rankName : RankName
  tags : List String
  weight : UInt64
  routingMetadata : Metadata

-- `display` prints an `f64`.
def validatePositiveWeight (display : UInt64 → String) (weight : UInt64) :
    Except MissiveError Unit :=
  if isFinite weight && isPositive weight then .ok ()
  else .error (MissiveError.validation
    s!"group member weight must be a positive finite number, got {display weight}")

/-! Push configs. -/

structure PushConfigUpsert where
  pushConfigId : PushConfigId
  agentAlias : AgentAlias
  taskId : Option TaskId
  callbackUrl : String
  authRefName : Option String
  remoteConfigJson : Option Json
  metadata : Metadata
  deletedAt : Option MissiveTimestamp

def PushConfigUpsert.check (input : PushConfigUpsert) : Except MissiveError Unit := do
  validateStoreIdentifier "push config id" input.pushConfigId.text
  validateLen "push config callback_url" input.callbackUrl 4096
  match input.authRefName with
  | some name => validateStoreIdentifier "push config auth_ref_name" name
  | none => pure ()

/-! Gateway sessions. -/

structure GatewaySessionUpsert where
  gatewaySessionId : GatewaySessionId
  sourceKind : String
  sourceId : String
  agentAlias : AgentAlias
  resumeName : String
  contextId : ContextId
  resetMode : GatewaySessionResetMode
  dailyResetHour : UInt8
  idleTimeoutSeconds : Option UInt64
  lastActiveAt : MissiveTimestamp
  lastResetAt : Option MissiveTimestamp
  resetCount : UInt64
  metadata : Metadata

def GatewaySessionUpsert.new (gatewaySessionId : GatewaySessionId) (sourceKind sourceId : String)
    (agentAlias : AgentAlias) (resumeName : String) (contextId : ContextId)
    (lastActiveAt : MissiveTimestamp) : GatewaySessionUpsert where
  gatewaySessionId := gatewaySessionId
  sourceKind := sourceKind
  sourceId := sourceId
  agentAlias := agentAlias
  resumeName := resumeName
  contextId := contextId
  resetMode := .none
  dailyResetHour := 0
  idleTimeoutSeconds := none
  lastActiveAt := lastActiveAt
  lastResetAt := none
  resetCount := 0
  metadata := .new

-- An integer column holds an `i64`.
def u64ToI64 (label : String) (value : UInt64) : Except MissiveError Nat :=
  if value.toNat < 2 ^ 63 then .ok value.toNat
  else .error (MissiveError.validation s!"{label} is too large to store in SQLite")

def optionalU64ToI64 (label : String) : Option UInt64 → Except MissiveError (Option Nat)
  | some value => (u64ToI64 label value).map some
  | none => .ok none

def validateIdleTimeout (mode : GatewaySessionResetMode) (idleTimeoutSeconds : Option UInt64) :
    Except MissiveError Unit :=
  match mode, idleTimeoutSeconds with
  | .idle, none | .both, none => .error (MissiveError.validation
      "gateway session idle_timeout_seconds is required for idle and both reset modes")
  | .idle, some seconds | .both, some seconds =>
      if seconds = 0 then .error (MissiveError.validation
        "gateway session idle_timeout_seconds must be greater than zero")
      else .ok ()
  | .none, some _ | .daily, some _ => .error (MissiveError.validation
      "gateway session idle_timeout_seconds is only valid for idle and both reset modes")
  | .none, none | .daily, none => .ok ()

def validateGatewaySessionResetPolicy (mode : GatewaySessionResetMode) (dailyResetHour : UInt8)
    (idleTimeoutSeconds : Option UInt64) : Except MissiveError Unit :=
  if 23 < dailyResetHour.toNat then .error (MissiveError.validation
    s!"gateway session daily_reset_hour must be between 0 and 23, got {dailyResetHour.toNat}")
  else validateIdleTimeout mode idleTimeoutSeconds

def GatewaySessionUpsert.check (input : GatewaySessionUpsert) : Except MissiveError Unit := do
  validateStoreIdentifier "gateway session source kind" input.sourceKind
  validateStoreIdentifier "gateway session source id" input.sourceId
  validateLen "gateway session resume_name" input.resumeName 128
  validateGatewaySessionResetPolicy input.resetMode input.dailyResetHour input.idleTimeoutSeconds
  let _ ← optionalU64ToI64 "gateway session idle_timeout_seconds" input.idleTimeoutSeconds
  let _ ← u64ToI64 "gateway session reset_count" input.resetCount
  pure ()

/-! One input of any of the upserts. -/

inductive UpsertInput where
  | agent (input : AgentUpsert)
  | context (input : ContextUpsert)
  | task (input : TaskUpsert)
  | artifact (input : ArtifactUpsert)
  | group (input : GroupUpsert)
  | groupMember (input : GroupMemberUpsert)
  | pushConfig (input : PushConfigUpsert)
  | gatewayJob (input : GatewayJobUpsert)
  | gatewaySession (input : GatewaySessionUpsert)

-- What the repository validates before the statement; contexts and tasks are written unchecked.
def UpsertInput.check (display : UInt64 → String) : UpsertInput → Except MissiveError Unit
  | .agent input => validateNonEmpty "agent base_url" input.baseUrl
  | .context _ | .task _ => .ok ()
  | .artifact input => input.check
  | .group input => input.check
  | .groupMember input => validatePositiveWeight display input.weight
  | .pushConfig input => input.check
  | .gatewayJob input => input.check
  | .gatewaySession input => input.check

end Missive.RecordUpserts
