import Missive.Broadcast
import Missive.GatewayPersistence

/-! The context commands: `create`, `fork` and `close`, the selection of a context by its id or
its name, and the contexts that the collective commands and the webhook receiver create on the
way. How `serde_json` reads a metadata value comes from outside. -/
namespace Missive.Contexts

open JsonValue KeyedTable Missive.Core Schema Effects Repository BackgroundJobs Protocol
open JsonRedaction (trim)

structure ContextCreateArgs where
  id : Option String
  name : Option String
  agent : Option String
  summary : Option String
  metadata : List String

structure ContextForkArgs where
  context : String
  id : Option String
  name : Option String
  agent : Option String
  summary : Option String
  metadata : List String

structure ContextCloseArgs where
  context : String
  summary : Option String

/-! Arguments. -/

def validateOptionalText (flag value : String) (maxBytes : Nat) (help : String) :
    Except MissiveError String :=
  let trimmed := String.ofList (trim value.toList)
  if trimmed.isEmpty then
    .error ((MissiveError.validation s!"{flag} value cannot be empty").withHelp help)
  else if trimmed.utf8ByteSize > maxBytes then
    .error ((MissiveError.validation
      s!"{flag} value is {trimmed.utf8ByteSize} bytes, but the maximum is {maxBytes}").withHelp help)
  else if trimmed.toList.any RustText.isControl then
    .error ((MissiveError.validation s!"{flag} value cannot contain control characters").withHelp
      help)
  else .ok trimmed

def parseContextName : Option String → Except MissiveError (Option String)
  | some value => do
      let name ← validateOptionalText "--name" value 128
        "Use a non-empty context name without control characters; quote names that contain spaces."
      .ok (some name)
  | none => .ok none

def parseSummary : Option String → Except MissiveError (Option String)
  | some value => do
      let summary ← validateOptionalText "--summary" value (8 * 1024)
        "Use a concise non-secret context summary."
      .ok (some summary)
  | none => .ok none

-- `str::split_once` at a character.
def splitOnce (separator : Char) (value : String) : Option (String × String) :=
  match value.toList.span (· ≠ separator) with
  | (_, []) => none
  | (start, _ :: rest) => some (String.ofList start, String.ofList rest)

def splitKeyValue (flag value : String) : Except MissiveError (String × String) :=
  match splitOnce '=' value with
  | none => .error (MissiveError.validation
      s!"{flag} value {debug value} must use KEY=VALUE syntax")
  | some (name, rawValue) =>
      if name.isEmpty || rawValue.isEmpty then
        .error (MissiveError.validation
          s!"{flag} value {debug value} must include a non-empty key and value")
      else .ok (name, rawValue)

def addMetadata (fromStr : String → Option Json) (metadata : Metadata) (value : String) :
    Except MissiveError Metadata := do
  let (name, rawValue) ← splitKeyValue "--metadata" value
  metadata.insert name ((fromStr rawValue).getD (.string rawValue))

def parseMetadata (fromStr : String → Option Json) (values : List String) :
    Except MissiveError Metadata := values.foldlM (addMetadata fromStr) .new

-- A generated id is a new UUID, as a generated message id is.
def parseOrGenerateContextId : Option String → Action ContextId
  | some value => Effect.lift (Id.new .contextId value)
  | none => do
      let text ← newMessageId
      Effect.lift (Id.new .contextId text)

/-! What the commands ask of the store. -/

-- `list_contexts`, in the order of the ids, and of it those under a name.
def contextsNamed (store : Store) (name : String) : List ContextRecord :=
  store.contexts.rows.filter fun context => context.name = some name

def ensureContextAbsent (contextId : ContextId) : Action Unit := do
  let known ← getContext contextId
  match known with
  | some _ => Effect.raise ((MissiveError.validation
      s!"context {debug contextId.text} already exists").withHelp
      "Choose another --id or omit --id so missive can generate a fresh context id.")
  | none => pure ()

def ensureContextNameAvailable (name : Option String) (except : Option ContextId) : Action Unit :=
  match name with
  | none => pure ()
  | some name => do
      let duplicate ← readStore fun store => (contextsNamed store name).find? fun context =>
        except.all fun except => context.contextId ≠ except
      match duplicate with
      | some context => Effect.raise ((MissiveError.validation
          s!"context name {debug name} is already used by context {debug context.contextId.text}").withHelp
          "Use a unique --name or select contexts by their A2A context id.")
      | none => pure ()

def resolveOptionalAgent : Option String → Action (Option AgentAlias)
  | none => pure none
  | some agent => do
      let aliasName ← Effect.lift (Id.new .agentAlias agent)
      let _ ← getExistingAgent aliasName
      pure (some aliasName)

-- The context whose id the selector is.
def contextById (store : Store) (selector : String) : Option ContextRecord :=
  match Id.new .contextId selector with
  | .ok contextId => store.contexts.find? contextId
  | .error _ => none

def onlyMatch (selector : String) : List ContextRecord → Except MissiveError ContextRecord
  | [record] => .ok record
  | [] => .error ((MissiveError.validation
      s!"context selector {debug selector} did not match a known context id or unique name").withHelp
      "Run 'missive context list' to see locally known context ids and names.")
  | duplicates => .error ((MissiveError.validation
      s!"context name {debug selector} is ambiguous across {duplicates.length} contexts").withHelp
      "Select the context by its A2A context id instead of name.")

def resolveContextSelector (selector : String) : Action ContextRecord := do
  let known ← readStore fun store => contextById store selector
  match known with
  | some record => pure record
  | none => do
      let named ← readStore fun store => contextsNamed store selector
      Effect.lift (onlyMatch selector named)

/-! The commands, up to the rendering of what they did. -/

section Commands

variable (fromStr : String → Option Json)

def createContext (args : ContextCreateArgs) : Action ContextRecord := do
  let contextId ← parseOrGenerateContextId args.id
  ensureContextAbsent contextId
  let name ← Effect.lift (parseContextName args.name)
  ensureContextNameAvailable name none
  let agentAlias ← resolveOptionalAgent args.agent
  let summary ← Effect.lift (parseSummary args.summary)
  let metadata ← Effect.lift (parseMetadata fromStr args.metadata)
  upsertContext { ContextUpsert.new contextId with
    agentAlias := agentAlias
    name := name
    summary := summary
    metadata := metadata }

def recordParentMetadata (metadata : Metadata) (parent : ContextRecord) : Action Metadata := do
  let linked ← Effect.lift (insertStr metadata "missive.context.parent_id" parent.contextId.text)
  let named ← Effect.lift (parent.name.elim (.ok linked)
    (insertStr linked "missive.context.parent_name"))
  let now ← nowUtc
  Effect.lift (insertStr named "missive.context.forked_at" now.toRfc3339.render)

def forkedAgent (agent : Option String) (parent : ContextRecord) : Action (Option AgentAlias) :=
  match agent with
  | some agent => resolveOptionalAgent (some agent)
  | none => pure parent.agentAlias

def forkContext (args : ContextForkArgs) : Action ContextRecord := do
  let parent ← resolveContextSelector args.context
  let childId ← parseOrGenerateContextId args.id
  ensureContextAbsent childId
  let name ← Effect.lift (parseContextName args.name)
  ensureContextNameAvailable name none
  let agentAlias ← forkedAgent args.agent parent
  let summary ← Effect.lift (parseSummary args.summary)
  let given ← Effect.lift (parseMetadata fromStr args.metadata)
  let metadata ← recordParentMetadata given parent
  upsertContext { ContextUpsert.new childId with
    agentAlias := agentAlias
    name := name
    parentContextId := some parent.contextId
    summary := summary
    metadata := metadata }

end Commands

-- A context that is closed already keeps its time.
def closingTime (record : ContextRecord) : Action MissiveTimestamp :=
  match record.closedAt with
  | some time => pure time.parse
  | none => nowUtc

def closeContext (args : ContextCloseArgs) : Action ContextRecord := do
  let record ← resolveContextSelector args.context
  let summary ← Effect.lift (parseSummary args.summary)
  let closedAt ← closingTime record
  upsertContext { ContextUpsert.new record.contextId with
    agentAlias := record.agentAlias
    name := record.name
    parentContextId := record.parentContextId
    state := .closed
    summary := summary.or record.summary
    metadata := record.metadata
    closedAt := some closedAt }

/-! Contexts that are created on the way. -/

-- `reduce` and `gather` differ in the summary and in what the metadata say.
def ensureCollectiveContext (contextId : ContextId) (summary : String)
    (recorded : Except MissiveError Metadata) : Action Unit := do
  let known ← getContext contextId
  match known with
  | some _ => pure ()
  | none => do
      let metadata ← Effect.lift recorded
      let _ ← upsertContext { ContextUpsert.new contextId with
        summary := some summary
        metadata := metadata }
      pure ()

def reduceMetadata (group : GroupRecord) : Except MissiveError Metadata := do
  let collective ← insertStr .new "missive.collective" "reduce"
  insertStr collective "missive.group" group.groupName.text

def ensureReduceContext (contextId : ContextId) (group : GroupRecord) : Action Unit :=
  ensureCollectiveContext contextId
    s!"Reduce collective context for group '{group.groupName.text}'" (reduceMetadata group)

def ensureGatherContext (contextId : ContextId) (group : GroupRecord) : Action Unit :=
  ensureCollectiveContext contextId
    s!"Gather collective context for group '{group.groupName.text}'"
    (insertStr .new "missive.collective" "gather")

-- The webhook receiver knows no agent; a task it does not know is left out of the event.
def ensureEventContext (event : EventInsert) : Action Unit :=
  match event.contextId with
  | none => pure ()
  | some contextId => do
      let known ← getContext contextId
      match known with
      | some _ => pure ()
      | none => do
          let _ ← upsertContext (ContextUpsert.new contextId)
          pure ()

def withKnownTask (event : EventInsert) : Action EventInsert :=
  match event.taskId with
  | none => pure event
  | some taskId => do
      let known ← getTask taskId
      match known with
      | some _ => pure event
      | none => pure { event with taskId := none }

def normalizeEventLinks (event : EventInsert) : Action EventInsert := do
  ensureEventContext event
  withKnownTask event

def appendWebhookEvent (event : EventInsert) : Action EventRecord := do
  let linked ← normalizeEventLinks event
  appendEvent linked

end Missive.Contexts
