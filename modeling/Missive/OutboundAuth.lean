import Missive.ConfigSeeding
import Missive.Contexts
import Missive.ServiceHeaders

/-! The auth headers of an outbound request, from the row of the store and from the configuration.
What the http crate takes for a header and what the platform keyring holds come from outside. -/
namespace Missive.OutboundAuth

open KeyedTable JsonRedaction Missive.Core Schema ServiceHeaders ConfigSeeding

/-! Two computations that give the same value, or both an error. -/

def SameResult {Value : Type} : Except MissiveError Value → Except MissiveError Value → Prop
  | .ok first, .ok last => first = last
  | .error _, .error _ => True
  | _, _ => False

section SameResult

variable {Value Other : Type}

@[simp] theorem SameResult.refl (result : Except MissiveError Value) :
    SameResult result result := by
  cases result with
  | error error => trivial
  | ok value => exact rfl

theorem SameResult.bind {first last : Except MissiveError Value}
    {next after : Value → Except MissiveError Other} (same : SameResult first last)
    (later : ∀ value, SameResult (next value) (after value)) :
    SameResult (first >>= next) (last >>= after) := by
  cases first with
  | error error =>
      cases last with
      | error other => trivial
      | ok value => exact same.elim
  | ok value =>
      cases last with
      | error error => exact same.elim
      | ok other =>
          have equal : value = other := same
          subst equal
          exact later value

end SameResult

/-! The headers. -/

structure Keyring where
  native : Bool
  -- `Entry::new`, and `get_password` of the entry.
  opens : String → String → Bool
  password : String → String → Option String

structure GlobalArgs where
  bearerTokenEnv : Option String
  headers : List String

/-- What a request's secrets are read from. -/
structure Surroundings where
  rules : HeaderSyntax
  keyring : Keyring
  environment : Table (String × String)

abbrev AuthHeaders := Table (String × String)

def authError (detail help : String) : MissiveError := ⟨.auth, detail, some help⟩

def trimmed (value : String) : String := String.ofList (trim value.toList)

def authHeaderName (rules : HeaderSyntax) (name : String) : Except MissiveError String :=
  if name.isEmpty then .error (MissiveError.validation "auth header name cannot be empty")
  else
    match rules.parseName name with
    | some canonical => .ok canonical
    | none =>
        .error ((MissiveError.validation
          "auth header name is not a valid HTTP header name").withHelp
          "Use ASCII HTTP header names such as Authorization or X-Api-Key.")

def authHeaderValue (rules : HeaderSyntax) (name value : String) : Except MissiveError Unit :=
  if value.isEmpty then
    .error (MissiveError.validation s!"auth header {debug name} value cannot be empty")
  else if value.utf8ByteSize > 8 * 1024 then
    .error (MissiveError.validation s!"auth header {debug name} value must be at most 8192 bytes")
  else if rules.validValue value then .ok ()
  else
    .error ((MissiveError.validation
      s!"auth header {debug name} value is not a valid HTTP header value").withHelp
      "Avoid control characters and newline characters in auth headers.")

def AuthHeaders.insert (rules : HeaderSyntax) (headers : AuthHeaders) (name value : String) :
    Except MissiveError AuthHeaders := do
  let headerName ← authHeaderName rules (trimmed name)
  authHeaderValue rules (trimmed name) (trimmed value)
  .ok (headers.put (headerName, trimmed value))

/-! The secrets. -/

def isEnvStart (c : Char) : Bool :=
  RustText.isAsciiUppercase c || RustText.isAsciiLowercase c || c == '_'

def isEnvCharacter (c : Char) : Bool := RustText.isAsciiAlphanumeric c || c == '_'

def validateEnvVarName (source value : String) : Except MissiveError Unit :=
  if value.isEmpty then
    .error (MissiveError.validation s!"{source} must name a non-empty environment variable")
  else if !value.toList.head?.any isEnvStart then
    .error ((MissiveError.validation (s!"{source} environment variable name must start with an " ++
      "ASCII letter or underscore")).withHelp
      "Pass an environment variable name, not the token value.")
  else if value.toList.any fun c => !isEnvCharacter c then
    .error ((MissiveError.validation (s!"{source} environment variable name must contain only " ++
      "ASCII letters, digits, and underscore")).withHelp
      "Pass an environment variable name, not the token value.")
  else .ok ()

def requiredEnvSecret (source envName : String) (environment : Table (String × String)) :
    Except MissiveError String := do
  validateEnvVarName source envName
  match environment.find? envName with
  | none =>
      .error (authError s!"environment variable {debug envName} required by {source} is not set"
        ("Set the environment variable before retrying; do not put the token in config or " ++
          "SQLite."))
  | some entry =>
      if (trim entry.2.toList).isEmpty then
        .error (authError s!"environment variable {debug envName} required by {source} is empty"
          "Set the environment variable to a non-empty token before retrying.")
      else .ok entry.2

def resolveKeyringSecret (keyring : Keyring) (authRefName service account : String) :
    Except MissiveError String :=
  if keyring.native then
    if keyring.opens service account then
      match keyring.password service account with
      | none =>
          .error (authError
            s!"keyring token for auth ref {debug authRefName} is unavailable"
            ("Provision the token in the platform keyring or choose an env-backed auth ref."))
      | some token =>
          if (trim token.toList).isEmpty then
            .error (authError s!"keyring token for auth ref {debug authRefName} is empty"
              "Update the platform keyring entry to contain a non-empty token.")
          else .ok token
    else
      .error (authError
        s!"could not open platform keyring entry for auth ref {debug authRefName}"
        ("Ensure this missive build supports the platform keyring and that the service/account " ++
          "names are valid."))
  else
    .error (authError (s!"auth ref {debug authRefName} is keyring-backed, but this missive " ++
      "binary was built without native keyring support")
      "Rebuild with the native-keyring feature or use an env-backed auth ref.")

def insertAuthSecret (rules : HeaderSyntax) (headers : AuthHeaders) (headerName : String)
    (scheme : Option String) (secret : String) : Except MissiveError AuthHeaders :=
  match scheme.filter fun scheme => !scheme.isEmpty with
  | some scheme => headers.insert rules headerName s!"{scheme} {secret}"
  | none => headers.insert rules headerName secret

-- `value.as_deref().ok_or_else(..)`
def required (missing : String) : Option String → Except MissiveError String
  | some value => .ok value
  | none => .error (authError missing "Update [auth_refs] in the loaded config.")

section Requests

variable (outside : Surroundings)

def storedSecret (authRef : AuthRefRecord) : Except MissiveError String :=
  match authRef.kind with
  | .env => do
      let envName ← required
        s!"auth ref {debug authRef.name} is environment-backed but has no env_var" authRef.envVar
      requiredEnvSecret s!"auth ref {debug authRef.name}" envName outside.environment
  | .keyring => do
      let service ← required
        s!"auth ref {debug authRef.name} is keyring-backed but has no keyring_service"
        authRef.keyringService
      let account ← required
        s!"auth ref {debug authRef.name} is keyring-backed but has no keyring_account"
        authRef.keyringAccount
      resolveKeyringSecret outside.keyring authRef.name service account
  | .external =>
      .error (authError (s!"auth ref {debug authRef.name} uses external secret storage that this " ++
        "CLI cannot resolve yet")
        "Use an env or keyring auth ref, or pass --bearer-token-env/--header.")

def applyAuthRef (headers : AuthHeaders) (authRef : AuthRefRecord) :
    Except MissiveError AuthHeaders := do
  let secret ← storedSecret outside authRef
  insertAuthSecret outside.rules headers authRef.headerName authRef.scheme secret

def configSecret (name : String) (authRef : AuthRefConfig) : Except MissiveError String :=
  match authRef.kind with
  | .env => do
      let envName ← required "configured environment auth ref has no env variable" authRef.env
      requiredEnvSecret "configured auth ref" envName outside.environment
  | .keyring => do
      let service ← required "configured keyring auth ref has no keyring_service"
        authRef.keyringService
      let account ← required "configured keyring auth ref has no keyring_account"
        authRef.keyringAccount
      resolveKeyringSecret outside.keyring name service account

def applyConfigAuthRef (headers : AuthHeaders) (name : String) (authRef : AuthRefConfig) :
    Except MissiveError AuthHeaders := do
  let secret ← configSecret outside name authRef
  insertAuthSecret outside.rules headers authRef.header (some authRef.scheme) secret

def parseHeaderArg (value : String) : Except MissiveError (String × String) :=
  match Contexts.splitOnce ':' value with
  | none =>
      .error (MissiveError.validation
        "--header must use Name:Value syntax with a non-empty HTTP header name and value")
  | some (name, headerValue) =>
      if (trimmed name).isEmpty || (trimmed headerValue).isEmpty then
        .error (MissiveError.validation
          "--header must include a non-empty HTTP header name and value")
      else .ok (trimmed name, trimmed headerValue)

def applyBearer (headers : AuthHeaders) : Option String → Except MissiveError AuthHeaders
  | none => .ok headers
  | some envName => do
      validateEnvVarName "--bearer-token-env" envName
      let token ← requiredEnvSecret "--bearer-token-env" envName outside.environment
      headers.insert outside.rules "Authorization" s!"Bearer {token}"

def applyHeader (headers : AuthHeaders) (value : String) : Except MissiveError AuthHeaders := do
  let parsed ← parseHeaderArg value
  headers.insert outside.rules parsed.1 parsed.2

def applyGlobalAuthHeaders (headers : AuthHeaders) (globals : GlobalArgs) :
    Except MissiveError AuthHeaders := do
  let borne ← applyBearer outside headers globals.bearerTokenEnv
  globals.headers.foldlM (applyHeader outside) borne

def storedAuth (store : Store) (agent : AgentRecord) : Except MissiveError AuthHeaders :=
  match agent.authRefName with
  | none => .ok Table.empty
  | some name =>
      match store.authRefs.find? name with
      | some authRef => applyAuthRef outside Table.empty authRef
      | none =>
          .error (authError
            s!"agent {debug agent.aliasName.text} references missing auth ref {debug name}"
            "Add the auth ref to the loaded config or update the agent registry entry.")

def authHeadersForAgent (store : Store) (agent : AgentRecord) (globals : GlobalArgs) :
    Except MissiveError AuthHeaders := do
  let headers ← storedAuth outside store agent
  applyGlobalAuthHeaders outside headers globals

def configuredAuth (config : SeededConfig) (agentAlias : String) :
    Except MissiveError AuthHeaders :=
  match config.agents.lookup agentAlias with
  | none => .error (MissiveError.config s!"agent {debug agentAlias} is not configured")
  | some agent =>
      match agent.authRef with
      | none => .ok Table.empty
      | some name =>
          match config.authRefs.lookup name with
          | some authRef => applyConfigAuthRef outside Table.empty name authRef
          | none =>
              .error (authError
                s!"configured agent {debug agentAlias} references missing auth ref"
                "Add the auth ref to the loaded config or remove the agent auth_ref.")

def authHeadersForConfigAgent (config : SeededConfig) (agentAlias : String)
    (globals : GlobalArgs) : Except MissiveError AuthHeaders := do
  let headers ← configuredAuth outside config agentAlias
  applyGlobalAuthHeaders outside headers globals

/-! A row that was written from the configuration. -/

/-- The row has the fields that `config_auth_ref_upsert` gives it. -/
def SeededFrom (name : String) (authRef : AuthRefConfig) (row : AuthRefRecord) : Prop :=
  ∃ time existing, row = (configAuthRefUpsert name authRef).toRecord time existing

theorem same_required {first last : String} (value : Option String) :
    SameResult (required first value) (required last value) := by
  cases value with
  | none => trivial
  | some value => exact rfl

theorem same_validateEnvVarName (first last value : String) :
    SameResult (validateEnvVarName first value) (validateEnvVarName last value) := by
  simp only [validateEnvVarName]
  split_ifs <;> trivial

theorem same_requiredEnvSecret (first last envName : String)
    (environment : Table (String × String)) :
    SameResult (requiredEnvSecret first envName environment)
      (requiredEnvSecret last envName environment) := by
  refine (same_validateEnvVarName first last envName).bind fun _ => ?_
  cases environment.find? envName with
  | none => trivial
  | some entry =>
      dsimp only
      split_ifs
      · trivial
      · exact rfl

variable {outside}

theorem same_secret {name : String} {authRef : AuthRefConfig} {row : AuthRefRecord}
    (seeded : SeededFrom name authRef row) :
    SameResult (storedSecret outside row) (configSecret outside name authRef) := by
  obtain ⟨time, existing, rfl⟩ := seeded
  cases kind : authRef.kind with
  | env =>
      simp only [storedSecret, configSecret, AuthRefUpsert.toRecord, configAuthRefUpsert, kind]
      exact (same_required _).bind fun envName => same_requiredEnvSecret _ _ _ _
  | keyring =>
      simp only [storedSecret, configSecret, AuthRefUpsert.toRecord, configAuthRefUpsert, kind]
      exact (same_required _).bind fun service => (same_required _).bind fun account =>
        SameResult.refl _

theorem same_applyAuthRef {name : String} {authRef : AuthRefConfig} {row : AuthRefRecord}
    (seeded : SeededFrom name authRef row) (headers : AuthHeaders) :
    SameResult (applyAuthRef outside headers row)
      (applyConfigAuthRef outside headers name authRef) := by
  refine (same_secret seeded).bind fun secret => ?_
  obtain ⟨time, existing, rfl⟩ := seeded
  exact SameResult.refl _

/-- The row of an agent and its entry of the configuration give the same headers where the row names
the same auth ref and the store has that auth ref as the configuration gave it. -/
theorem same_authHeaders {store : Store} {config : SeededConfig} {row : AgentRecord}
    {agentAlias : String} {agent : AgentConfig}
    (configured : config.agents.lookup agentAlias = some agent)
    (named : row.authRefName = agent.authRef)
    (seeded : ∀ name, agent.authRef = some name → ∃ authRef stored,
      config.authRefs.lookup name = some authRef ∧ store.authRefs.find? name = some stored ∧
        SeededFrom name authRef stored) (globals : GlobalArgs) :
    SameResult (authHeadersForAgent outside store row globals)
      (authHeadersForConfigAgent outside config agentAlias globals) := by
  refine SameResult.bind ?_ fun headers => SameResult.refl _
  simp only [storedAuth, configuredAuth, configured, named]
  cases chosen : agent.authRef with
  | none => exact SameResult.refl _
  | some name =>
      obtain ⟨authRef, stored, listed, found, from_⟩ := seeded name chosen
      simp only [listed, found]
      exact same_applyAuthRef from_ Table.empty

end Requests

end Missive.OutboundAuth
