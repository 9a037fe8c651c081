import Mathlib.Algebra.Group.Int.Defs
import Mathlib.Data.List.TakeWhile
import Missive.JobRuns
import Missive.JobWorkers

/-! What a background job asks for. `job start` encodes it into `request_json`; for an attempt the
gateway decodes it again from the row that a scan has claimed. In between, the row is rewritten by
scans, finished attempts and retries, and the gateway may crash. -/
namespace Missive.JobRequests

open JsonValue KeyedTable Missive.Core Schema Effects Repository BackgroundJobs JobLifecycle
open JobRefinement JobWorkers

/-! The arguments of `job start`. -/

-- `strip_suffix`
def stripSuffix (text suffix : RustText.Text) : Option RustText.Text :=
  if suffix.isSuffixOf text then some (text.take (text.length - suffix.length)) else none

-- `parse::<u64>`
def parseU64 (text : RustText.Text) : Option UInt64 :=
  let digits := if text.head? = some '+' then text.tail else text
  let value := digits.foldl (fun value c => value * 10 + (c.toNat - 48)) 0
  if !digits.isEmpty && digits.all RustText.isAsciiDigit && value < 2 ^ 64 then
    some (UInt64.ofNat value)
  else none

def durationUnits : List (String × Nat) := [("ms", 1), ("s", 1000), ("m", 60000), ("h", 3600000)]

def durationParts (value : RustText.Text) : Option (RustText.Text × Nat) :=
  durationUnits.findSome? fun unit =>
    (stripSuffix value unit.1.toList).map fun number => (number, unit.2)

-- The milliseconds of the duration.
def parseDurationArg (flag value : String) : Except MissiveError UInt64 :=
  let trimmed := JsonRedaction.trim value.toList
  let shown := debug (String.ofList trimmed)
  match durationParts trimmed with
  | none => .error ((MissiveError.validation
      s!"{flag} value {shown} must use a duration suffix: ms, s, m, or h").withHelp
      "Use values such as 500ms, 2s, 5m, or 1h.")
  | some (number, multiplier) =>
      match parseU64 number with
      | none => .error ((MissiveError.validation
          s!"{flag} value {shown} has an invalid number").withHelp
          "Use a positive whole number followed by ms, s, m, or h.")
      | some amount =>
          if amount = 0 then .error (MissiveError.validation
            s!"{flag} value {shown} must be greater than zero")
          else if amount.toNat * multiplier < 2 ^ 64 then
            .ok (UInt64.ofNat (amount.toNat * multiplier))
          else .error (MissiveError.validation s!"{flag} value {shown} is too large")

def defaultWaitTimeout : UInt64 := 30000
def defaultWaitInterval : UInt64 := 1000

def durationFlag (flag : String) (value : Option String) (default : UInt64) :
    Except MissiveError UInt64 :=
  match value with
  | none => .ok default
  | some value => parseDurationArg flag value

-- The flags of `job start wait`, with the global `--timeout`.
structure WaitFlags where
  taskId : String
  agent : Option String
  localOnly : Bool
  interval : Option String
  historyLength : Option Int32
  timeout : Option String

def WaitFlags.args (flags : WaitFlags) : Except MissiveError TaskWaitArgs := do
  let timeout ← durationFlag "--timeout" flags.timeout defaultWaitTimeout
  let interval ← durationFlag "--interval" flags.interval defaultWaitInterval
  .ok ⟨flags.taskId, flags.agent, flags.localOnly, flags.historyLength.map Int32.toInt,
    interval.toNat, timeout.toNat⟩

-- A prepared message holds its request encoded, so the request stands beside it.
inductive StartCommand (Request : Type) where
  | send (agent : String) (request : Request) (prepared : PreparedSend)
  | stream (agent : String) (force : Bool) (request : Request) (prepared : PreparedSend)
  | wait (flags : WaitFlags)
  | reduce (args : ReduceArgs)

/-! What the gateway decodes. -/

-- A field of a struct that `serde` reads from an object, or by its position from an array.
def structField (value : Json) (position : Nat) (name : String) : Option Json :=
  match value with
  | .array items => items[position]?
  | value => value.get name

def isStruct (fields : Nat) : Json → Bool
  | .object _ => true
  | .array items => items.length ≤ fields
  | _ => false

section Fields

variable {Result : Type}

def readField (read : Json → Option Result) (default : Result) (value : Json) (position : Nat)
    (name : String) : Option Result :=
  match structField value position name with
  | some field => read field
  | none => some default

def readOption (read : Json → Option Result) : Json → Option (Option Result)
  | .null => some none
  | value => (read value).map some

end Fields

def readU64 : Json → Option UInt64
  | .number (.posInt value) => if value < 2 ^ 64 then some (UInt64.ofNat value) else none
  | _ => none

def readI32 : Json → Option Int32
  | .number (.posInt value) => if value < 2 ^ 31 then some (Int32.ofInt value) else none
  | .number (.negInt value) => if -2 ^ 31 ≤ value then some (Int32.ofInt value) else none
  | _ => none

structure WaitJobRequest where
  agent : Option String
  taskId : String
  localOnly : Bool
  historyLength : Option Int32
  intervalMs : UInt64
  timeoutMs : UInt64

def WaitJobRequest.read (value : Json) : Option WaitJobRequest :=
  if isStruct 6 value then do
    let agent ← readField (readOption Json.asStr) none value 0 "agent"
    let taskId ← readField Json.asStr "" value 1 "task_id"
    let localOnly ← readField Json.asBool false value 2 "local"
    let historyLength ← readField (readOption readI32) none value 3 "history_length"
    let intervalMs ← readField readU64 1000 value 4 "interval_ms"
    let timeoutMs ← readField readU64 30000 value 5 "timeout_ms"
    some ⟨agent, taskId, localOnly, historyLength, intervalMs, timeoutMs⟩
  else none

structure ReduceJobRequest where
  group : String
  contextId : String
  strategy : String

def ReduceJobRequest.read (value : Json) : Option ReduceJobRequest :=
  if isStruct 3 value then do
    let group ← readField Json.asStr "" value 0 "group"
    let contextId ← readField Json.asStr "" value 1 "context_id"
    let strategy ← readField Json.asStr "summarise" value 2 "strategy"
    some ⟨group, contextId, strategy⟩
  else none

def requestAgentAlias (job : GatewayJobRecord) : Except MissiveError AgentAlias :=
  match job.agentAlias, (job.requestJson.get "agent").bind Json.asStr with
  | some agentAlias, _ => .ok agentAlias
  | none, some agent => Id.new .agentAlias agent
  | none, none => .error (MissiveError.validation
      s!"background job {job.gatewayJobId.text} does not include an agent")

-- `text.trim().is_empty()`
def blank (text : String) : Bool := (JsonRedaction.trim text.toList).isEmpty

def waitRequestFromJob (job : GatewayJobRecord) : Except MissiveError WaitJobRequest :=
  match WaitJobRequest.read job.requestJson with
  | none => .error (MissiveError.protocol "decoding background wait job request")
  | some request =>
      if blank request.taskId then
        .error (MissiveError.validation "background wait job requires task_id")
      else .ok request

-- `normalize_reduce_strategy` of the gateway.
def normalizeJobStrategy (value : String) : Except MissiveError String :=
  let normalized := String.ofList ((JsonRedaction.trim value.toList).map RustText.toAsciiLowercase)
  if ["summarise", "summarize", "merge", "rank", "vote"].contains normalized then .ok normalized
  else .error ((MissiveError.validation
    s!"background reduce strategy {debug normalized} is not supported").withHelp
    "Use summarise, summarize, merge, rank, or vote for gateway-managed local reduce jobs.")

def reduceRequestFromJob (job : GatewayJobRecord) : Except MissiveError ReduceJobRequest :=
  match ReduceJobRequest.read job.requestJson with
  | none => .error (MissiveError.protocol "decoding background reduce job request")
  | some request =>
      if blank request.group || blank request.contextId then
        .error (MissiveError.validation "background reduce job requires group and context_id")
      else do
        let strategy ← normalizeJobStrategy request.strategy
        .ok { request with strategy := strategy }

inductive JobRequest (Request : Type) where
  | send (agent : AgentAlias) (request : Request)
  | stream (agent : AgentAlias) (request : Request)
  | wait (request : WaitJobRequest)
  | reduce (request : ReduceJobRequest)

section Codec

-- `serde_json::to_value` and `serde_json::from_value` at the type of A2A requests.
variable {Request : Type} (toValue : Request → Json) (fromValue : Json → Except String Request)

def StartCommand.start : StartCommand Request → Except MissiveError JobStart
  | .send agent request prepared => .ok (.send agent { prepared with request := toValue request })
  | .stream agent force request prepared =>
      .ok (.stream agent force { prepared with request := toValue request })
  | .wait flags => do
      let args ← flags.args
      .ok (.wait args)
  | .reduce args => .ok (.reduce args)

def runStart (command : StartCommand Request) (options : JobStartOptions)
    (parameters : ServiceParameters) : Action GatewayJobRecord := do
  let start ← Effect.lift (command.start toValue)
  startJob start options parameters

def sendRequestFromJob (job : GatewayJobRecord) : Except MissiveError Request :=
  match job.requestJson.get "request" with
  | none => .error (MissiveError.validation
      s!"background job {job.gatewayJobId.text} does not include a SendMessage request")
  | some value =>
      (fromValue value).mapError fun _ =>
        MissiveError.protocol "decoding background SendMessage request"

def agentRequest (job : GatewayJobRecord) : Except MissiveError (AgentAlias × Request) := do
  let agentAlias ← requestAgentAlias job
  let request ← sendRequestFromJob fromValue job
  .ok (agentAlias, request)

/-- What the worker for the job's kind decodes before it acts; a job of another kind has no
worker. -/
def decodeJob (job : GatewayJobRecord) : Option (Except MissiveError (JobRequest Request)) :=
  if job.kind = "send" then some ((agentRequest fromValue job).map fun asked => .send asked.1 asked.2)
  else if job.kind = "stream" then
    some ((agentRequest fromValue job).map fun asked => .stream asked.1 asked.2)
  else if job.kind = "wait" then some ((waitRequestFromJob job).map .wait)
  else if job.kind = "reduce" then some ((reduceRequestFromJob job).map .reduce)
  else none

/-- The request is the one the command enqueued. -/
def StartCommand.Asks (command : StartCommand Request) (decoded : JobRequest Request) : Prop :=
  match command, decoded with
  | .send agent request _, .send agentAlias sent => agentAlias.text = agent ∧ sent = request
  | .stream agent _ request _, .stream agentAlias sent => agentAlias.text = agent ∧ sent = request
  | .wait flags, .wait asked =>
      asked.agent = flags.agent ∧ asked.taskId = flags.taskId ∧
        asked.localOnly = flags.localOnly ∧ asked.historyLength = flags.historyLength ∧
        durationFlag "--interval" flags.interval defaultWaitInterval = .ok asked.intervalMs ∧
        durationFlag "--timeout" flags.timeout defaultWaitTimeout = .ok asked.timeoutMs
  | .reduce args, .reduce asked =>
      asked.group = args.group ∧ asked.contextId = args.context ∧
        normalizeReduceStrategy args.strategy = .ok asked.strategy
  | _, _ => False

end Codec

/-! Each decoder reads back what the encoder of its kind wrote. -/

theorem readU64_nat (value : UInt64) : readU64 (.nat value.toNat) = some value := by
  have bounded : value.toNat < 2 ^ 64 := value.toNat_lt
  simp only [readU64, Json.nat]
  rw [if_pos bounded, UInt64.ofNat_toNat]

theorem readI32_intJson (value : Int32) : readI32 (intJson value.toInt) = some value := by
  have above : value.toInt < 2 ^ 31 := value.toInt_lt
  have below : -2 ^ 31 ≤ value.toInt := value.le_toInt
  unfold intJson
  by_cases negative : 0 ≤ value.toInt
  · have small : value.toInt.toNat < 2 ^ 31 := by omega
    rw [if_pos negative]
    simp only [readI32]
    rw [if_pos small, Int.toNat_of_nonneg negative, Int32.ofInt_toInt]
  · rw [if_neg negative]
    simp only [readI32]
    rw [if_pos below, Int32.ofInt_toInt]

theorem readOption_some {Result : Type} {read : Json → Option Result} {value : Json}
    (visible : value ≠ .null) : readOption read value = (read value).map some := by
  cases value <;> first | rfl | exact absurd rfl visible

theorem linkJson_read {kind : IdKind} (link : Option (Id kind)) :
    readOption Json.asStr (linkJson link) = some (link.map Id.text) := by
  cases link with
  | none => rfl
  | some id => rfl

theorem historyLength_read (historyLength : Option Int32) :
    readOption readI32 (.ofOption intJson (historyLength.map Int32.toInt)) = some historyLength := by
  cases historyLength with
  | none => rfl
  | some value =>
      have visible : intJson value.toInt ≠ .null := by
        unfold intJson
        split <;> exact fun shown => by cases shown
      have read := readI32_intJson value
      rw [show Json.ofOption intJson ((some value).map Int32.toInt) = intJson value.toInt from rfl,
        readOption_some visible, read]
      rfl

theorem visible_not_blank {value : String} {c : Char} (member : c ∈ value.toList)
    (visible : RustText.isWhitespace c = false) : blank value = false := by
  cases shown : blank value with
  | false => rfl
  | true =>
      have empty : JsonRedaction.trim value.toList = [] := List.isEmpty_iff.mp shown
      rw [JsonRedaction.trim_eq_nil.mp empty c member] at visible
      cases visible

theorem opaque_not_blank {value : String} (valid : opaqueReason value = none) :
    blank value = false := by
  unfold opaqueReason at valid
  split at valid
  · cases valid
  · rename_i filled
    split at valid
    · cases valid
    · split at valid
      · cases valid
      · rename_i solid
        cases shown : value.toList with
        | nil => simp_all
        | cons c rest =>
            have member : c ∈ value.toList := by simp [shown]
            apply visible_not_blank member
            simp_all

theorem shape_not_blank {value allowed : String} {maxBytes : Nat} {separator : Char → Bool}
    (valid : shapeReason value maxBytes allowed separator = none) : blank value = false := by
  unfold shapeReason at valid
  split at valid
  · cases valid
  · split at valid
    · cases valid
    · split at valid
      · cases valid
      · rename_i started
        cases shown : value.toList with
        | nil => simp_all
        | cons c rest =>
            have member : c ∈ value.toList := by simp [shown]
            apply visible_not_blank member
            apply RustText.alphanumeric_not_whitespace
            simp_all [isLowerAlphanumeric, RustText.isAsciiAlphanumeric]
            grind

theorem id_not_blank {kind : IdKind} (id : Id kind) : blank id.text = false := by
  have valid := id.valid
  cases kind
  case agentAlias | groupName | rankName | transportName => exact shape_not_blank valid
  all_goals exact opaque_not_blank valid

theorem wait_read (agent : Option AgentAlias) (cancelRemote localOnly : Bool) (taskId : TaskId)
    (historyLength : Option Int32) (interval timeout : UInt64) :
    WaitJobRequest.read (.object [("agent", linkJson agent),
      ("cancel_remote_on_cancel", .bool cancelRemote),
      ("history_length", .ofOption intJson (historyLength.map Int32.toInt)),
      ("interval_ms", .nat interval.toNat), ("local", .bool localOnly),
      ("operation", .string "wait"), ("schema", .string jobSchema),
      ("task_id", .string taskId.text), ("timeout_ms", .nat timeout.toNat)]) =
    some ⟨agent.map Id.text, taskId.text, localOnly, historyLength, interval, timeout⟩ := by
  simp [WaitJobRequest.read, isStruct, readField, structField, Json.get, List.lookup_cons, linkJson_read,
    historyLength_read, readU64_nat, Json.asStr, Json.asBool]

theorem reduce_read (cancelRemote : Bool) (contextId : ContextId) (groupName : GroupName)
    (strategy : String) :
    ReduceJobRequest.read (.object [("cancel_remote_on_cancel", .bool cancelRemote),
      ("context_id", .string contextId.text), ("group", .string groupName.text),
      ("operation", .string "reduce"), ("schema", .string jobSchema),
      ("strategy", .string strategy)]) =
    some ⟨groupName.text, contextId.text, strategy⟩ := by
  simp [ReduceJobRequest.read, isStruct, readField, structField, Json.get, List.lookup_cons, Json.asStr]

-- A strategy the command line has normalised is one the gateway knows and leaves as it is.
theorem strategy_normalized {value strategy : String}
    (accepted : normalizeReduceStrategy value = .ok strategy) :
    normalizeJobStrategy strategy = .ok strategy := by
  dsimp only [normalizeReduceStrategy] at accepted
  split at accepted
  · rename_i known
    cases accepted
    simp only [List.contains_iff_mem, List.mem_cons, List.not_mem_nil, or_false] at known
    rcases known with same | same | same | same | same <;> rw [same] <;> rfl
  · cases accepted

/-! The row of `job start` decodes to what the command asks for. -/

/-- The columns the decoders read. -/
structure SameRequest (first last : GatewayJobRecord) : Prop where
  kind : last.kind = first.kind
  requestJson : last.requestJson = first.requestJson
  agentAlias : last.agentAlias = first.agentAlias

structure RowOf (upsert : GatewayJobUpsert) (job : GatewayJobRecord) : Prop where
  id : job.gatewayJobId = upsert.gatewayJobId
  kind : job.kind = upsert.kind
  state : job.state = upsert.state
  requestJson : job.requestJson = upsert.requestJson
  agentAlias : job.agentAlias = upsert.agentAlias

theorem upsertGatewayJob_returned {upsert : GatewayJobUpsert} {row : GatewayJobRecord}
    {world after : World} (ran : upsertGatewayJob upsert world = (.ok row, after)) :
    RowOf upsert row ∧ after.store.gatewayJobs = world.store.gatewayJobs.put row := by
  obtain ⟨shown, moved⟩ := upsertRow_returned gatewayJobsTable _ _ _ _ upsert.gatewayJobId _
    upsert.toRecord (fun _ _ => rfl) ran
  have stored : after.store.gatewayJobs = world.store.gatewayJobs.put row := by
    rw [moved]
    rfl
  refine ⟨?_, stored⟩
  rw [shown]
  exact ⟨rfl, rfl, rfl, rfl, rfl⟩

theorem startJob_returned {start : JobStart} {options : JobStartOptions}
    {parameters : ServiceParameters} {job : GatewayJobRecord} {world after : World}
    (ran : startJob start options parameters world = (.ok job, after)) :
    ∃ upsert middle, startUpsert start options parameters world = (.ok upsert, middle) ∧
      RowOf upsert job ∧ after.store.gatewayJobs.find? job.gatewayJobId = some job := by
  obtain ⟨upsert, middle, built, linked⟩ := Effect.bind_returned ran
  obtain ⟨_, first, _, tasked⟩ := Effect.bind_returned linked
  obtain ⟨_, last, _, ready⟩ := Effect.bind_returned tasked
  obtain ⟨row, written, wrote, logged⟩ := Effect.bind_returned ready
  obtain ⟨_, ended, appended, returned⟩ := Effect.bind_returned logged
  cases returned
  obtain ⟨same, put⟩ := upsertGatewayJob_returned wrote
  have kept := keeps_appendCliJobEvent "missive.job.enqueued" job (enqueuedPayload job) parameters
    written
  rw [appended] at kept
  refine ⟨upsert, middle, built, same, ?_⟩
  rw [show after.store.gatewayJobs = written.store.gatewayJobs from kept, put]
  exact last.store.gatewayJobs.find?_put_self job

section Codec

variable {Request : Type} {toValue : Request → Json} {fromValue : Json → Except String Request}

theorem agentRequest_read (roundTrip : ∀ request, fromValue (toValue request) = .ok request)
    {job : GatewayJobRecord} {kind agent : String} {prepared : PreparedSend}
    {options : JobStartOptions} {force : Option Bool} {agentAlias : AgentAlias} (request : Request)
    (asked : job.requestJson =
      sendRequestJson kind agent { prepared with request := toValue request } options force)
    (named : job.agentAlias = some agentAlias) :
    agentRequest fromValue job = .ok (agentAlias, request) := by
  have stored : job.requestJson.get "request" = some (toValue request) := by
    rw [asked]
    cases force with
    | none => rfl
    | some force => rfl
  have alias_ : requestAgentAlias job = .ok agentAlias := by
    simp only [requestAgentAlias, named]
  have sent : sendRequestFromJob fromValue job = .ok request := by
    simp only [sendRequestFromJob, stored, roundTrip]
    rfl
  simp only [agentRequest, alias_, sent]
  rfl

theorem sendOrStreamJobUpsert_row {kind agent : String} {prepared : PreparedSend}
    {options : JobStartOptions} {force : Option Bool} {parameters : ServiceParameters}
    {upsert : GatewayJobUpsert}
    (built : sendOrStreamJobUpsert kind agent prepared options force parameters = .ok upsert) :
    upsert.kind = kind ∧ upsert.requestJson = sendRequestJson kind agent prepared options force ∧
      ∃ agentAlias, upsert.agentAlias = some agentAlias ∧ agentAlias.text = agent := by
  obtain ⟨_, _, rest⟩ := except_bind_returned built
  obtain ⟨jobId, _, rest⟩ := except_bind_returned rest
  obtain ⟨agentAlias, named, rest⟩ := except_bind_returned rest
  obtain ⟨metadata, _, same⟩ := except_bind_returned rest
  cases same
  exact ⟨rfl, rfl, agentAlias, rfl, Id.text_of_new named⟩

theorem parseOptionalAlias_text {agent : Option String} {agentAlias : Option AgentAlias}
    (parsed : parseOptionalAlias agent = .ok agentAlias) : agentAlias.map Id.text = agent := by
  cases agent with
  | none =>
      cases parsed
      rfl
  | some agent =>
      obtain ⟨name, named, same⟩ := except_bind_returned parsed
      cases same
      exact congrArg some (Id.text_of_new named)

theorem waitJobUpsert_row {flags : WaitFlags} {interval timeout : UInt64}
    {options : JobStartOptions} {parameters : ServiceParameters} {upsert : GatewayJobUpsert}
    {world after : World}
    (ran : waitJobUpsert ⟨flags.taskId, flags.agent, flags.localOnly,
      flags.historyLength.map Int32.toInt, interval.toNat, timeout.toNat⟩ options parameters world =
      (.ok upsert, after)) :
    upsert.kind = "wait" ∧ blank flags.taskId = false ∧
      WaitJobRequest.read upsert.requestJson = some ⟨flags.agent, flags.taskId, flags.localOnly,
        flags.historyLength, interval, timeout⟩ := by
  obtain ⟨_, _, first⟩ := Effect.lift_bind_returned ran
  obtain ⟨taskId, task, second⟩ := Effect.lift_bind_returned first
  obtain ⟨agentAlias, agent, third⟩ := Effect.lift_bind_returned second
  obtain ⟨messageId, _, _, fourth⟩ := Effect.bind_returned third
  obtain ⟨jobId, _, fifth⟩ := Effect.lift_bind_returned fourth
  obtain ⟨metadata, _, last⟩ := Effect.lift_bind_returned fifth
  cases last
  have named : taskId.text = flags.taskId := Id.text_of_new task
  have spoken : agentAlias.map Id.text = flags.agent := parseOptionalAlias_text agent
  refine ⟨rfl, ?_, ?_⟩
  · rw [← named]
    exact id_not_blank taskId
  · rw [← named, ← spoken]
    exact wait_read agentAlias options.cancelRemoteOnCancel flags.localOnly taskId
      flags.historyLength interval timeout

theorem reduceJobUpsert_row {args : ReduceArgs} {options : JobStartOptions}
    {parameters : ServiceParameters} {upsert : GatewayJobUpsert} {world after : World}
    (ran : reduceJobUpsert args options parameters world = (.ok upsert, after)) :
    ∃ strategy, upsert.kind = "reduce" ∧ blank args.group = false ∧ blank args.context = false ∧
      normalizeReduceStrategy args.strategy = .ok strategy ∧
      ReduceJobRequest.read upsert.requestJson = some ⟨args.group, args.context, strategy⟩ := by
  obtain ⟨_, _, first⟩ := Effect.lift_bind_returned ran
  obtain ⟨groupName, group, second⟩ := Effect.lift_bind_returned first
  obtain ⟨contextId, context, third⟩ := Effect.lift_bind_returned second
  obtain ⟨strategy, normalized, fourth⟩ := Effect.lift_bind_returned third
  obtain ⟨messageId, _, _, fifth⟩ := Effect.bind_returned fourth
  obtain ⟨jobId, _, sixth⟩ := Effect.lift_bind_returned fifth
  obtain ⟨metadata, _, last⟩ := Effect.lift_bind_returned sixth
  cases last
  rw [← Id.text_of_new group, ← Id.text_of_new context]
  exact ⟨strategy, rfl, id_not_blank groupName, id_not_blank contextId, normalized,
    reduce_read options.cancelRemoteOnCancel contextId groupName strategy⟩

attribute [local simp] decodeJob

theorem decodeJob_wait {job : GatewayJobRecord} {asked : WaitJobRequest} (kind : job.kind = "wait")
    (read : WaitJobRequest.read job.requestJson = some asked) (named : blank asked.taskId = false) :
    decodeJob fromValue job = some (.ok (.wait asked)) := by
  simp [waitRequestFromJob, kind, read, named, Except.map]

theorem decodeJob_reduce {job : GatewayJobRecord} {asked : ReduceJobRequest}
    (kind : job.kind = "reduce") (read : ReduceJobRequest.read job.requestJson = some asked)
    (group : blank asked.group = false) (context : blank asked.contextId = false)
    (strategy : normalizeJobStrategy asked.strategy = .ok asked.strategy) :
    decodeJob fromValue job = some (.ok (.reduce asked)) := by
  simp [reduceRequestFromJob, kind, read, group, context, strategy, Except.map,
    Bind.bind, Except.bind]

/-- Whoever holds the columns that `job start` wrote decodes what the command asked for. -/
theorem started_decodes (roundTrip : ∀ request, fromValue (toValue request) = .ok request)
    {command : StartCommand Request} {options : JobStartOptions} {parameters : ServiceParameters}
    {job claimed : GatewayJobRecord} {world after : World}
    (ran : runStart toValue command options parameters world = (.ok job, after))
    (same : SameRequest job claimed) :
    ∃ decoded, decodeJob fromValue claimed = some (.ok decoded) ∧ command.Asks decoded := by
  obtain ⟨start, parsed, started⟩ := Effect.lift_bind_returned ran
  obtain ⟨upsert, middle, built, row, _⟩ := startJob_returned started
  have kind : claimed.kind = upsert.kind := same.kind.trans row.kind
  have requested : claimed.requestJson = upsert.requestJson := same.requestJson.trans row.requestJson
  have aliased : claimed.agentAlias = upsert.agentAlias := same.agentAlias.trans row.agentAlias
  cases command with
  | send agent request prepared =>
      cases parsed
      obtain ⟨_, _, _, rest⟩ := Effect.bind_returned built
      obtain ⟨encoded, _⟩ := Prod.mk.inj rest
      obtain ⟨send, json, agentAlias, named, text⟩ := sendOrStreamJobUpsert_row encoded
      have read := agentRequest_read roundTrip request (requested.trans json) (aliased.trans named)
      refine ⟨.send agentAlias request, ?_, text, rfl⟩
      simp [decodeJob, kind, send, read, Except.map]
  | stream agent force request prepared =>
      cases parsed
      obtain ⟨_, _, _, rest⟩ := Effect.bind_returned built
      obtain ⟨encoded, _⟩ := Prod.mk.inj rest
      obtain ⟨stream, json, agentAlias, named, text⟩ := sendOrStreamJobUpsert_row encoded
      have read := agentRequest_read roundTrip request (requested.trans json) (aliased.trans named)
      refine ⟨.stream agentAlias request, ?_, text, rfl⟩
      simp [decodeJob, kind, stream, read, Except.map]
  | wait flags =>
      obtain ⟨args, known, wrapped⟩ := except_bind_returned parsed
      cases wrapped
      obtain ⟨timeout, timed, rest⟩ := except_bind_returned known
      obtain ⟨interval, polled, shown⟩ := except_bind_returned rest
      cases shown
      obtain ⟨wait, named, read⟩ := waitJobUpsert_row built
      rw [← requested] at read
      exact ⟨_, decodeJob_wait (kind.trans wait) read named, rfl, rfl, rfl, rfl, polled, timed⟩
  | reduce args =>
      cases parsed
      obtain ⟨_, _, _, rest⟩ := Effect.bind_returned built
      obtain ⟨strategy, reduce, group, context, normalized, read⟩ := reduceJobUpsert_row rest
      rw [← requested] at read
      have decoded : decodeJob fromValue claimed =
          some (.ok (.reduce ⟨args.group, args.context, strategy⟩)) :=
        decodeJob_reduce (kind.trans reduce) read group context (strategy_normalized normalized)
      exact ⟨_, decoded, rfl, rfl, normalized⟩

end Codec

end Missive.JobRequests
