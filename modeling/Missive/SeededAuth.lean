import Missive.OutboundAuth
import Missive.StoragePaths

/-! The agents and the auth refs of a configuration that passed its check, and what becomes of them
in the store. How the url crate reads a URL comes from outside. -/
namespace Missive.SeededAuth

open KeyedTable JsonRedaction Missive.Core Schema Effects Repository BackgroundJobs ConfigSeeding
  OutboundAuth
open StoragePaths (validateNamedConfigIdentifier identifierReason)
open ServiceHeaders (validateRequiredText validateHeaderName)

structure Url where
  scheme : String
  hostStr : Option String
  username : String
  password : Option String

/-- The two maps of the configuration, with each name once. -/
structure ConfigMaps extends SeededConfig where
  agentNames : (agents.map Prod.fst).Nodup
  authRefNames : (authRefs.map Prod.fst).Nodup

/-! The check of the configuration, as far as it reads the two maps. -/

def validateOptionalText (field value : String) : Except MissiveError Unit :=
  if value.toList.any RustText.isControl then
    .error (MissiveError.config s!"{field} cannot contain control characters")
  else .ok ()

def validateRequiredOptionText (field : String) : Option String → Except MissiveError Unit
  | none => .error (MissiveError.config s!"{field} is required")
  | some value => validateRequiredText field value

def validateTransportBinding (field value : String) : Except MissiveError Unit :=
  if value.isEmpty then
    .error ((MissiveError.config s!"{field} binding cannot be empty").withHelp
      "Use bindings such as http+json, json-rpc, or grpc.")
  else if value.utf8ByteSize > 64 then
    .error ((MissiveError.config s!"{field} binding is too long").withHelp
      "Use short transport binding names such as http+json or json-rpc.")
  else if !value.toList.head?.any isLowerAlphanumeric ||
      !value.toList.getLast?.any isLowerAlphanumeric then
    .error ((MissiveError.config (s!"{field} binding must start and end with a lowercase ASCII " ++
      "letter or digit")).withHelp "Use bindings such as http+json, json-rpc, or grpc.")
  else if value.toList.all fun c => isLowerAlphanumeric c || isTransportSeparator c then .ok ()
  else
    .error ((MissiveError.config s!"{field} binding contains unsupported characters").withHelp
      "Use lowercase ASCII letters, digits, '+', '-', '_' or '.'.")

def validateAuthScheme (field value : String) : Except MissiveError Unit := do
  validateRequiredText field value
  if value.toList.any fun c => !(RustText.isAsciiAlphanumeric c || c == '-' || c == '_') then
    .error ((MissiveError.config s!"{field} must be an auth scheme token").withHelp
      "Use a scheme such as Bearer, Basic, Token, or ApiKey.")
  else .ok ()

def validateConfigEnvVarName (field value : String) : Except MissiveError Unit := do
  validateRequiredText field value
  if !value.toList.head?.any isEnvStart then
    .error ((MissiveError.config s!"{field} must start with an ASCII letter or underscore").withHelp
      "Set env to an environment variable name, not to a token value.")
  else if value.toList.any fun c => !isEnvCharacter c then
    .error ((MissiveError.config
      s!"{field} must contain only ASCII letters, digits, and underscore").withHelp
      "Set env to an environment variable name, not to a token value.")
  else .ok ()

def AuthRefConfig.validate (authRef : AuthRefConfig) (name : String) :
    Except MissiveError Unit := do
  validateHeaderName s!"auth_refs.{name}.header" authRef.header
  validateAuthScheme s!"auth_refs.{name}.scheme" authRef.scheme
  match authRef.kind with
  | .env =>
      match authRef.env with
      | none =>
          .error ((MissiveError.config
            s!"auth_refs.{name}.env is required for kind = \"env\"").withHelp
            "Set env to the name of an environment variable, not to a token value.")
      | some envName => validateConfigEnvVarName s!"auth_refs.{name}.env" envName
  | .keyring => do
      validateRequiredOptionText s!"auth_refs.{name}.keyring_service" authRef.keyringService
      validateRequiredOptionText s!"auth_refs.{name}.keyring_account" authRef.keyringAccount

section Check

variable (parse : String → Option Url)

def validateHttpUrl (field value : String) : Except MissiveError Unit := do
  validateRequiredText field value
  if value.toList.any RustText.isWhitespace || value.toList.any RustText.isControl then
    throw ((MissiveError.config
      s!"{field} must be an HTTP(S) URL without whitespace or control characters").withHelp
      "Use a URL such as https://agent.example or http://127.0.0.1:8080.")
  match parse value with
  | none =>
      .error ((MissiveError.config s!"{field} must be a valid absolute HTTP(S) URL").withHelp
        "Use a URL such as https://agent.example or http://127.0.0.1:8080.")
  | some parsed =>
      if (parsed.scheme != "http" && parsed.scheme != "https") || parsed.hostStr.isNone then
        .error ((MissiveError.config s!"{field} must use http or https and include a host").withHelp
          "Use a URL such as https://agent.example or http://127.0.0.1:8080.")
      else if !parsed.username.isEmpty || parsed.password.isSome then
        .error ((MissiveError.config s!"{field} must not include embedded credentials").withHelp
          "Use auth_refs for authentication material instead of username/password URLs.")
      else .ok ()

def validateAuthRefName (agentAlias : String) (config : SeededConfig) :
    Option String → Except MissiveError Unit
  | none => .ok ()
  | some name => do
      validateNamedConfigIdentifier s!"agents.{agentAlias}.auth_ref" name
      if (config.authRefs.lookup name).isSome then .ok ()
      else
        .error ((MissiveError.config
          s!"agent {debug agentAlias} references missing auth_ref {debug name}").withHelp
          "Add [auth_refs.<name>] or remove the agent auth_ref.")

def validateNotes (agentAlias : String) : Option String → Except MissiveError Unit
  | none => .ok ()
  | some notes => validateOptionalText s!"agents.{agentAlias}.notes" notes

def AgentConfig.validate (agent : AgentConfig) (agentAlias : String) (config : SeededConfig) :
    Except MissiveError Unit := do
  validateHttpUrl parse s!"agents.{agentAlias}.base_url" agent.baseUrl
  agent.interfaceUrls.forM fun entry => do
    validateTransportBinding s!"agents.{agentAlias}.interface_urls" entry.1
    validateHttpUrl parse s!"agents.{agentAlias}.interface_urls.{entry.1}" entry.2
  agent.bindingPreference.forM
    (validateTransportBinding s!"agents.{agentAlias}.binding_preference")
  validateAuthRefName agentAlias config agent.authRef
  agent.tags.forM (validateNamedConfigIdentifier s!"agents.{agentAlias}.tags")
  validateNotes agentAlias agent.notes

def validateAgent (config : SeededConfig) (entry : String × AgentConfig) :
    Except MissiveError Unit := do
  validateNamedConfigIdentifier "agent alias" entry.1
  AgentConfig.validate parse entry.2 entry.1 config

def validateConfigAuthRef (entry : String × AuthRefConfig) : Except MissiveError Unit := do
  validateNamedConfigIdentifier "auth ref name" entry.1
  AuthRefConfig.validate entry.2 entry.1

/-- The two loops of `MissiveConfig::validate` over the maps. -/
def validate (config : SeededConfig) : Except MissiveError Unit := do
  config.agents.forM (validateAgent parse config)
  config.authRefs.forM validateConfigAuthRef

end Check

/-! What passes the check of the configuration and what the store makes of it. -/

theorem namedIdentifier_passed {kind value : String}
    (valid : validateNamedConfigIdentifier kind value = .ok ()) :
    identifierReason value = none := by
  rw [validateNamedConfigIdentifier] at valid
  cases reason : identifierReason value with
  | none => rfl
  | some reason =>
      simp only [reason] at valid
      cases valid

theorem requiredText_filled {field value : String}
    (valid : validateRequiredText field value = .ok ()) : value.isEmpty = false := by
  by_contra filled
  have empty : value = "" := by simpa using filled
  subst empty
  cases valid

theorem transportBinding_passed {field value : String}
    (valid : validateTransportBinding field value = .ok ()) :
    IdKind.reason .transportName value = none := by
  rw [validateTransportBinding] at valid
  split_ifs at valid with empty long ends allowed
  simp only [Bool.or_eq_true, not_or, Bool.not_eq_true, Bool.not_eq_false'] at ends
  simp [IdKind.reason, shapeReason, empty, long, ends.1, ends.2, allowed]

theorem named_solid {c : Char} (allowed : (isLowerAlphanumeric c || isNamedSeparator c) = true) :
    RustText.isWhitespace c = false ∧ RustText.isControl c = false := by
  by_cases separator : isNamedSeparator c = true
  · simp only [isNamedSeparator, Bool.or_eq_true, beq_iff_eq] at separator
    rcases separator with (rfl | rfl) | rfl <;> decide
  · have letter : isLowerAlphanumeric c = true := by simpa [separator] using allowed
    simp only [isLowerAlphanumeric, RustText.isAsciiLowercase, RustText.isAsciiDigit,
      Bool.or_eq_true, Bool.and_eq_true, decide_eq_true_eq] at letter
    constructor
    · simp only [RustText.isWhitespace, Bool.or_eq_false_iff, Bool.and_eq_false_imp,
        decide_eq_true_eq, decide_eq_false_iff_not, beq_eq_false_iff_ne]
      omega
    · simp only [RustText.isControl, Bool.or_eq_false_iff, Bool.and_eq_false_imp,
        decide_eq_true_eq, decide_eq_false_iff_not]
      omega

-- A name of the configuration is an identifier of the store.
theorem identifier_opaque {value : String} (named : identifierReason value = none) :
    opaqueReason value = none := by
  rw [identifierReason, shapeReason] at named
  split_ifs at named with empty long first last shaped
  have solid := fun c member => named_solid (List.all_eq_true.mp shaped c member)
  have blanks : value.toList.any RustText.isWhitespace = false :=
    List.any_eq_false.mpr fun c member => by simp [(solid c member).1]
  have controls : value.toList.any RustText.isControl = false :=
    List.any_eq_false.mpr fun c member => by simp [(solid c member).2]
  have short : ¬ value.utf8ByteSize > 256 := by omega
  rw [opaqueReason, if_neg empty, if_neg short, blanks, if_neg Bool.false_ne_true, controls,
    if_neg Bool.false_ne_true]

/-! The auth refs. -/

/-- The lengths that the store admits. -/
def Fits (authRef : AuthRefConfig) : Prop :=
  authRef.header.utf8ByteSize ≤ 128 ∧ authRef.scheme.utf8ByteSize ≤ 64

theorem validateLen_iff (label : String) {value : String} (maxBytes : Nat) (filled : value.isEmpty = false) :
    validateLen label value maxBytes = .ok () ↔ value.utf8ByteSize ≤ maxBytes := by
  simp only [validateLen, validateNonEmpty, filled, Bool.false_eq_true, if_false, bind, Except.bind]
  by_cases long : value.utf8ByteSize > maxBytes
  · simp [long]
  · simpa [long] using not_lt.mp long

theorem requiredOption_passed {field label : String} {value : Option String}
    (valid : validateRequiredOptionText field value = .ok ()) :
    validateRequiredOption label value = .ok () := by
  cases value with
  | none => cases valid
  | some value => simp [validateRequiredOption, validateNonEmpty, requiredText_filled valid]

theorem secretSource_passed {name : String} {authRef : AuthRefConfig}
    (valid : AuthRefConfig.validate authRef name = .ok ()) :
    authRef.header.isEmpty = false ∧ authRef.scheme.isEmpty = false ∧
      match authRef.kind with
      | .env => validateRequiredOption "auth ref env_var" authRef.env = .ok ()
      | .keyring =>
          validateRequiredOption "auth ref keyring_service" authRef.keyringService = .ok () ∧
            validateRequiredOption "auth ref keyring_account" authRef.keyringAccount = .ok () := by
  obtain ⟨_, header, valid⟩ := except_bind_returned valid
  obtain ⟨_, scheme, valid⟩ := except_bind_returned valid
  obtain ⟨_, headerText, _⟩ := except_bind_returned header
  obtain ⟨_, schemeText, _⟩ := except_bind_returned scheme
  refine ⟨requiredText_filled headerText, requiredText_filled schemeText, ?_⟩
  cases kind : authRef.kind with
  | env =>
      rw [kind] at valid
      cases given : authRef.env with
      | none =>
          rw [given] at valid
          cases valid
      | some envName =>
          rw [given] at valid
          obtain ⟨_, envText, _⟩ := except_bind_returned valid
          simp [validateRequiredOption, validateNonEmpty, requiredText_filled envText]
  | keyring =>
      rw [kind] at valid
      obtain ⟨_, service, account⟩ := except_bind_returned valid
      exact ⟨requiredOption_passed service, requiredOption_passed account⟩

/-- Of an auth ref that passed the check of the configuration, the store refuses the lengths alone. -/
theorem validateAuthRef_iff {entry : String × AuthRefConfig}
    (valid : validateConfigAuthRef entry = .ok ()) :
    validateAuthRef (configAuthRefUpsert entry.1 entry.2) = .ok () ↔ Fits entry.2 := by
  obtain ⟨_, named, checked⟩ := except_bind_returned valid
  have ⟨header, scheme, source⟩ := secretSource_passed checked
  have name : validateStoreIdentifier "auth ref name" entry.1 = .ok () := by
    rw [validateStoreIdentifier, identifier_opaque (namedIdentifier_passed named)]
  have headerFits := validateLen_iff "auth ref header_name" 128 header
  have schemeFits := validateLen_iff "auth ref scheme" 64 scheme
  constructor
  · intro passed
    obtain ⟨_, _, passed⟩ := except_bind_returned passed
    obtain ⟨_, headerPassed, passed⟩ := except_bind_returned passed
    obtain ⟨_, schemePassed, _⟩ := except_bind_returned passed
    exact ⟨headerFits.mp headerPassed, schemeFits.mp schemePassed⟩
  · intro fits
    simp only [validateAuthRef, configAuthRefUpsert, name, headerFits.mpr fits.1,
      validateOptionLen, schemeFits.mpr fits.2, bind, Except.bind]
    cases kind : entry.2.kind with
    | env =>
        rw [kind] at source
        exact source
    | keyring =>
        rw [kind] at source
        simp only [source.1]
        exact source.2

theorem upsertAuthRef_ran {name : String} {authRef : AuthRefConfig}
    (passed : validateAuthRef (configAuthRefUpsert name authRef) = .ok ()) (world : World) :
    ∃ row after, upsertAuthRef (configAuthRefUpsert name authRef) world = (.ok row, after) ∧
      SeededFrom name authRef row ∧
      after.store = { world.store with authRefs := world.store.authRefs.put row } :=
  ⟨_, _, upsertRow_accepted authRefsTable _ _ _ _ _ _ (configAuthRefUpsert name authRef).toRecord
    (fun _ _ => rfl) passed world rfl, ⟨_, _, rfl⟩, rfl⟩

/-- The auth refs of the configuration are in the store, the others are as they were. -/
structure Synced (authRefs : List (String × AuthRefConfig)) (before after : Store) : Prop where
  others : after = { before with authRefs := after.authRefs }
  kept : ∀ name, name ∉ authRefs.map Prod.fst →
    after.authRefs.find? name = before.authRefs.find? name
  seeded : ∀ entry ∈ authRefs, ∃ row, after.authRefs.find? entry.1 = some row ∧
    SeededFrom entry.1 entry.2 row

theorem syncConfigAuthRefs_ran {authRefs : List (String × AuthRefConfig)}
    (distinct : (authRefs.map Prod.fst).Nodup)
    (passed : ∀ entry ∈ authRefs, validateAuthRef (configAuthRefUpsert entry.1 entry.2) = .ok ())
    (world : World) :
    ∃ after, syncConfigAuthRefs authRefs world = (.ok (), after) ∧
      Synced authRefs world.store after.store := by
  induction authRefs generalizing world with
  | nil => exact ⟨world, rfl, rfl, fun _ _ => rfl, nofun⟩
  | cons entry rest ih =>
      obtain ⟨row, middle, wrote, seeded, moved⟩ :=
        upsertAuthRef_ran (passed entry List.mem_cons_self) world
      have ⟨absent, others⟩ := List.nodup_cons.mp distinct
      obtain ⟨after, ran, synced⟩ :=
        ih others (fun other member => passed other (List.mem_cons_of_mem _ member)) middle
      have keyed : key row = entry.1 := by
        obtain ⟨_, _, rfl⟩ := seeded
        rfl
      have stored : middle.store.authRefs = world.store.authRefs.put row := by rw [moved]
      refine ⟨after, ?_, ?_, ?_, ?_⟩
      · have first : (do
            let _ ← upsertAuthRef (configAuthRefUpsert entry.1 entry.2)
            pure () : Action Unit) world = (.ok (), middle) := by
          rw [Effect.bind_ok _ _ _ _ _ wrote, Effect.pure_run]
        exact (Effect.bind_ok _ _ _ _ _ first).trans ran
      · rw [synced.others, moved]
      · intro name unlisted
        rw [List.map_cons, List.mem_cons, not_or] at unlisted
        rw [synced.kept name unlisted.2, stored,
          Table.find?_put_other _ _ _ (keyed ▸ unlisted.1)]
      · intro other member
        rcases List.mem_cons.mp member with rfl | later
        · refine ⟨row, ?_, seeded⟩
          rw [synced.kept _ absent, stored, ← keyed, Table.find?_put_self]
        · exact synced.seeded other later

theorem syncConfigAuthRefs_passed {authRefs : List (String × AuthRefConfig)} {world after : World}
    (ran : syncConfigAuthRefs authRefs world = (.ok (), after)) :
    ∀ entry ∈ authRefs, validateAuthRef (configAuthRefUpsert entry.1 entry.2) = .ok () := by
  induction authRefs generalizing world with
  | nil => nofun
  | cons entry rest ih =>
      obtain ⟨_, middle, first, others⟩ := Effect.bind_returned ran
      obtain ⟨row, last, upserted, _⟩ := Effect.bind_returned first
      obtain ⟨_, passed, _⟩ := Effect.lift_bind_returned upserted
      intro other member
      rcases List.mem_cons.mp member with rfl | later
      · exact passed
      · exact ih others other later

/-! The agents. -/

/-- What the check of the configuration says of an agent. -/
structure AgentChecked (config : SeededConfig) (entry : String × AgentConfig) : Prop where
  name : IdKind.reason .agentAlias entry.1 = none
  baseUrl : entry.2.baseUrl.isEmpty = false
  interfaceUrls : ∀ listed ∈ entry.2.interfaceUrls, IdKind.reason .transportName listed.1 = none
  bindings : ∀ binding ∈ entry.2.bindingPreference, IdKind.reason .transportName binding = none
  authRef : ∀ name, entry.2.authRef = some name →
    ∃ authRef, config.authRefs.lookup name = some authRef

theorem agent_checked {parse : String → Option Url} {config : SeededConfig}
    {entry : String × AgentConfig} (valid : validateAgent parse config entry = .ok ()) :
    AgentChecked config entry := by
  obtain ⟨_, named, valid⟩ := except_bind_returned valid
  obtain ⟨_, url, valid⟩ := except_bind_returned valid
  obtain ⟨_, urls, valid⟩ := except_bind_returned valid
  obtain ⟨_, bindings, valid⟩ := except_bind_returned valid
  obtain ⟨_, chosen, _⟩ := except_bind_returned valid
  obtain ⟨_, urlText, _⟩ := except_bind_returned url
  constructor
  · exact namedIdentifier_passed named
  · exact requiredText_filled urlText
  · intro listed member
    obtain ⟨_, binding, _⟩ := except_bind_returned (except_forM_each urls listed member)
    exact transportBinding_passed binding
  · intro binding member
    exact transportBinding_passed (except_forM_each bindings binding member)
  · intro name given
    rw [given] at chosen
    obtain ⟨_, _, listed⟩ := except_bind_returned chosen
    cases found : config.authRefs.lookup name with
    | none => simp [found] at listed
    | some authRef => exact ⟨authRef, rfl⟩

theorem id_made {kind : IdKind} {value : String} (passes : kind.reason value = none) :
    Id.new kind value = .ok ⟨value, passes⟩ := Id.new_text ⟨value, passes⟩

theorem transportUrlMap_made {values : List (String × String)}
    (passes : ∀ listed ∈ values, IdKind.reason .transportName listed.1 = none) :
    ∃ urls, transportUrlMap values = .ok urls := by
  refine except_mapM_returns fun listed member => ?_
  rw [id_made (passes listed member)]
  exact ⟨_, rfl⟩

theorem transportList_made {values : List String}
    (passes : ∀ binding ∈ values, IdKind.reason .transportName binding = none) :
    ∃ bindings, transportList values = .ok bindings :=
  except_mapM_returns fun binding member => ⟨_, id_made (passes binding member)⟩

theorem configAgentUpsert_ran {config : SeededConfig} {entry : String × AgentConfig}
    (checked : AgentChecked config entry) (name : AgentAlias) (existing : Option AgentRecord) :
    ∃ input, configAgentUpsert name entry.2 existing = .ok input ∧ input.aliasName = name ∧
      input.baseUrl = entry.2.baseUrl ∧ input.authRefName = entry.2.authRef := by
  obtain ⟨urls, urlsMade⟩ := transportUrlMap_made checked.interfaceUrls
  obtain ⟨bindings, bindingsMade⟩ := transportList_made checked.bindings
  simp only [configAgentUpsert, urlsMade, bindingsMade, bind, Except.bind]
  cases existing.filter fun existing => existing.baseUrl = entry.2.baseUrl with
  | none => exact ⟨_, rfl, rfl, rfl, rfl⟩
  | some row => exact ⟨_, rfl, rfl, rfl, rfl⟩

theorem upsertAgent_ran {input : AgentUpsert} {world : World}
    (url : input.baseUrl.isEmpty = false)
    (referred : world.store.hasAuthRef input.authRefName = true) :
    ∃ row after, upsertAgent input world = (.ok row, after) ∧
      row.aliasName = input.aliasName ∧ row.authRefName = input.authRefName ∧
      after.store = { world.store with agents := world.store.agents.put row } := by
  have passed : validateNonEmpty "agent base_url" input.baseUrl = .ok () := by
    rw [validateNonEmpty, url, if_neg Bool.false_ne_true]
  have accepted : refuseUnless (world.store.hasAuthRef input.authRefName) foreignKeyFailed = none := by
    rw [referred]
    rfl
  exact ⟨_, _, upsertRow_accepted agentsTable _ _ _ _ _ _ input.toRecord (fun _ _ => rfl) passed
    world accepted, rfl, rfl, rfl⟩

/-- One agent: its row names the auth ref of the configuration, and no other row moves. -/
theorem syncConfigAgent_ran {config : SeededConfig} {entry : String × AgentConfig}
    (checked : AgentChecked config entry) {world : World}
    (referred : world.store.hasAuthRef entry.2.authRef = true) :
    ∃ row after, syncConfigAgent entry.1 entry.2 world = (.ok (), after) ∧
      row.aliasName = ⟨entry.1, checked.name⟩ ∧ row.authRefName = entry.2.authRef ∧
      after.store = { world.store with agents := world.store.agents.put row } := by
  obtain ⟨input, made, named, url, chosen⟩ := configAgentUpsert_ran checked
    ⟨entry.1, checked.name⟩ (world.store.agents.find? ⟨entry.1, checked.name⟩)
  obtain ⟨row, after, wrote, keyed, kept, moved⟩ :=
    upsertAgent_ran (url ▸ checked.baseUrl) (chosen ▸ referred)
  refine ⟨row, after, ?_, keyed.trans named, kept.trans chosen, moved⟩
  have read : getAgent ⟨entry.1, checked.name⟩ world =
      (.ok (world.store.agents.find? ⟨entry.1, checked.name⟩), world) := rfl
  rw [syncConfigAgent, id_made checked.name, Effect.bind_ok _ _ _ _ _ (Effect.lift_run _ world),
    Effect.bind_ok _ _ _ _ _ read, made, Effect.bind_ok _ _ _ _ _ (Effect.lift_run _ world),
    Effect.bind_ok _ _ _ _ _ wrote, Effect.pure_run]

/-- The agents of the configuration are in the store, each with its auth ref. -/
structure Listed (agents : List (String × AgentConfig)) (before after : Store) : Prop where
  others : after = { before with agents := after.agents }
  kept : ∀ name, name.text ∉ agents.map Prod.fst →
    after.agents.find? name = before.agents.find? name
  listed : ∀ entry ∈ agents, ∃ name row, name.text = entry.1 ∧
    after.agents.find? name = some row ∧ row.authRefName = entry.2.authRef

theorem syncConfigAgents_ran {config : SeededConfig} {agents : List (String × AgentConfig)}
    (distinct : (agents.map Prod.fst).Nodup)
    (checked : ∀ entry ∈ agents, AgentChecked config entry) {world : World}
    (referred : ∀ entry ∈ agents, world.store.hasAuthRef entry.2.authRef = true) :
    ∃ after, syncConfigAgents agents world = (.ok (), after) ∧
      Listed agents world.store after.store := by
  induction agents generalizing world with
  | nil => exact ⟨world, rfl, rfl, fun _ _ => rfl, nofun⟩
  | cons entry rest ih =>
      obtain ⟨row, middle, first, keyed, chosen, moved⟩ :=
        syncConfigAgent_ran (checked entry List.mem_cons_self) (referred entry List.mem_cons_self)
      have ⟨absent, others⟩ := List.nodup_cons.mp distinct
      have still : ∀ other ∈ rest, middle.store.hasAuthRef other.2.authRef = true := by
        intro other member
        rw [moved]
        exact referred other (List.mem_cons_of_mem _ member)
      obtain ⟨after, ran, listed⟩ :=
        ih others (fun other member => checked other (List.mem_cons_of_mem _ member)) still
      have stored : middle.store.agents = world.store.agents.put row := by rw [moved]
      have name : row.aliasName.text = entry.1 := by rw [keyed]
      refine ⟨after, (Effect.bind_ok _ _ _ _ _ first).trans ran, ?_, ?_, ?_⟩
      · rw [listed.others, moved]
      · intro wanted unlisted
        rw [List.map_cons, List.mem_cons, not_or] at unlisted
        have apart : wanted ≠ key row := fun same => unlisted.1 ((congrArg Id.text same).trans name)
        rw [listed.kept wanted unlisted.2, stored, Table.find?_put_other _ _ _ apart]
      · intro other member
        rcases List.mem_cons.mp member with rfl | later
        · refine ⟨row.aliasName, row, name, ?_, chosen⟩
          have found : (world.store.agents.put row).find? row.aliasName = some row :=
            Table.find?_put_self _ row
          rw [listed.kept _ (name ▸ absent), stored, found]
        · exact listed.listed other later

/-! The whole configuration. -/

theorem lookup_of_member {Item : Type} {entries : List (String × Item)}
    (distinct : (entries.map Prod.fst).Nodup) {entry : String × Item} (member : entry ∈ entries) :
    entries.lookup entry.1 = some entry.2 := by
  induction entries with
  | nil => cases member
  | cons head rest ih =>
      have ⟨absent, others⟩ := List.nodup_cons.mp distinct
      rcases List.mem_cons.mp member with rfl | later
      · rw [List.lookup_cons_self]
      · have apart : entry.1 ≠ head.1 := fun same =>
          absent (same ▸ List.mem_map_of_mem later)
        rw [List.lookup_cons, beq_eq_false_iff_ne.mpr apart]
        exact ih others later

/-- The registry opens over the configuration, and afterwards each of its agents has the same auth
headers from its row as from the configuration. -/
def SeedsAuth (config : SeededConfig) (world : World) : Prop :=
  ∃ after, openAgentRegistry config world = (.ok (), after) ∧
    ∀ entry ∈ config.agents, ∃ name row, name.text = entry.1 ∧
      after.store.agents.find? name = some row ∧
      ∀ outside globals, SameResult (authHeadersForAgent outside after.store row globals)
        (authHeadersForConfigAgent outside config entry.1 globals)

def loopback (_ : String) : Option Url := some ⟨"http", some "127.0.0.1", "", none⟩

def tokenConfig (scheme : String) : ConfigMaps where
  agents := [("echo", { localAgent with authRef := some "token" })]
  authRefs := [("token", ⟨.env, some "ECHO_TOKEN", none, none, "Authorization", scheme⟩)]
  agentNames := by simp
  authRefNames := by simp

def longScheme : String := "Bearer-0123456789-0123456789-0123456789-0123456789-0123456789-012"

end Missive.SeededAuth
