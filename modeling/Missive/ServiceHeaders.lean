import Missive.JobRequests
import Missive.RedactionIdempotence

/-! A2A service parameters as the headers of a request. What the http crate takes for a header name
and for a header value is a parameter; names are compared in the form it gives them. -/
namespace Missive.ServiceHeaders

open RustText JsonRedaction KeyedTable Missive.Core BackgroundJobs

structure HeaderSyntax where
  parseName : String → Option String
  validValue : String → Bool

def lowercaseName (name : String) : String := String.ofList (lowercase name.toList)

-- What the http crate documents of header names and values.
structure HeaderSyntax.Documented (rules : HeaderSyntax) : Prop where
  lowered : ∀ {name canonical}, rules.parseName name = some canonical →
    canonical = lowercaseName name
  visible : ∀ {value : String}, (∀ c ∈ value.toList, 0x20 ≤ c.toNat ∧ c.toNat ≤ 0x7E) →
    rules.validValue value = true

-- The headers of a request, in the order in which they were added.
abbrev Request := List (String × String)

def Request.header (request : Request) (name value : String) : Request := request ++ [(name, value)]

def svcParamVersion : String := "A2A-Version"

def svcParamExtensions : String := "A2A-Extensions"

def validateServiceParameterValue (name value : String) : Except MissiveError Unit :=
  if (trim value.toList).isEmpty then
    .error (MissiveError.validation s!"A2A service parameter {debug name} cannot be empty")
  else if 8 * 1024 < value.utf8ByteSize then
    .error (MissiveError.validation
      s!"A2A service parameter {debug name} must be at most 8192 bytes")
  else if value.toList.any isControl then
    .error (MissiveError.validation
      s!"A2A service parameter {debug name} cannot contain control characters")
  else .ok ()

def isVersionCharacter (c : Char) : Bool :=
  isAsciiAlphanumeric c || c == '.' || c == '-' || c == '_'

def validateProtocolVersionText (value : String) : Except MissiveError Unit :=
  if value.isEmpty || 64 < value.utf8ByteSize then
    .error ((MissiveError.validation "A2A protocol version must be 1 to 64 bytes").withHelp
      "Use a short version such as 1.0.")
  else if value.toList.any fun c => !isVersionCharacter c then
    .error ((MissiveError.validation
      "A2A protocol version contains unsupported characters").withHelp
      "Use ASCII letters, digits, '.', '-' or '_' only.")
  else .ok ()

def validateExtensionValue (value : String) : Except MissiveError Unit := do
  validateServiceParameterValue "A2A-Extensions" value
  if value.toList.any isWhitespace || value.toList.contains ',' then
    .error ((MissiveError.validation
      "A2A extension identifiers must not contain whitespace or commas").withHelp
      "Use compact URI-like extension identifiers.")
  else .ok ()

def validateExtensionsAfter (seen : List String) : List String → Except MissiveError Unit
  | [] => .ok ()
  | extension :: rest => do
      validateExtensionValue extension
      if extension ∈ seen then
        .error ((MissiveError.validation s!"duplicate A2A extension {debug extension}").withHelp
          "List each A2A extension at most once.")
      else validateExtensionsAfter (extension :: seen) rest

def isReservedServiceParameterName (name : String) : Bool :=
  lowercaseName name == lowercaseName svcParamVersion ||
    lowercaseName name == lowercaseName svcParamExtensions

section Rules

variable (rules : HeaderSyntax)

def serviceParameterHeaderName (name : String) : Except MissiveError String :=
  match rules.parseName name with
  | some canonical => .ok canonical
  | none => .error ((MissiveError.validation
      s!"A2A service parameter name {debug name} is not a valid HTTP header name").withHelp
      "Use ASCII HTTP header names such as A2A-Trace or A2A-Tenant.")

def validateExtraServiceParameter (name value : String) : Except MissiveError Unit := do
  let _ ← serviceParameterHeaderName rules name
  if isReservedServiceParameterName name then
    .error ((MissiveError.validation
      s!"extra A2A service parameters must not redefine reserved header {debug name}").withHelp
      "Use protocol_version for A2A-Version and extensions for A2A-Extensions.")
  else validateServiceParameterValue name value

def validate (parameters : ServiceParameters) : Except MissiveError Unit := do
  validateServiceParameterValue "A2A-Version" parameters.protocolVersion
  validateProtocolVersionText parameters.protocolVersion
  validateExtensionsAfter [] parameters.extensions
  parameters.extra.forM fun entry => validateExtraServiceParameter rules entry.1 entry.2

def new (protocolVersion : String) (extensions : List String) (extra : List (String × String)) :
    Except MissiveError ServiceParameters := do
  let parameters : ServiceParameters := ⟨protocolVersion, extensions, extra⟩
  validate rules parameters
  .ok parameters

def serviceParameterHeaderValue (name value : String) : Except MissiveError String := do
  validateServiceParameterValue name value
  if rules.validValue value then .ok value
  else .error ((MissiveError.validation
    s!"A2A service parameter {debug name} is not a valid HTTP header value").withHelp
    "Avoid control characters and newline characters in service parameters.")

def applyExtra (request : Request) : List (String × String) → Except MissiveError Request
  | [] => .ok request
  | entry :: rest => do
      let headerName ← serviceParameterHeaderName rules entry.1
      let headerValue ← serviceParameterHeaderValue rules entry.1 entry.2
      applyExtra (request.header headerName headerValue) rest

def applyExtensions (request : Request) (extensions : List String) :
    Except MissiveError Request :=
  if extensions.isEmpty then .ok request
  else do
    let value ← serviceParameterHeaderValue rules svcParamExtensions (", ".intercalate extensions)
    .ok (request.header (lowercaseName svcParamExtensions) value)

def applyToBlockingRequest (parameters : ServiceParameters) (request : Request) :
    Except MissiveError Request := do
  validate rules parameters
  let version ← serviceParameterHeaderValue rules svcParamVersion parameters.protocolVersion
  let extended ← applyExtensions rules (request.header (lowercaseName svcParamVersion) version)
    parameters.extensions
  applyExtra rules extended parameters.extra

end Rules

/-! The configuration that parameters are taken from. -/

instance : Keyed (String × String) String where
  key := Prod.fst

structure ProtocolConfig where
  protocolVersion : String
  extensions : List String
  serviceParameters : Table (String × String)

def validateRequiredText (field value : String) : Except MissiveError Unit :=
  if (trim value.toList).isEmpty then .error (MissiveError.config s!"{field} cannot be empty")
  else if value.toList.any isControl then
    .error (MissiveError.config s!"{field} cannot contain control characters")
  else .ok ()

def validateProtocolVersion (field value : String) : Except MissiveError Unit := do
  validateRequiredText field value
  if 64 < value.utf8ByteSize then
    .error ((MissiveError.config s!"{field} must be at most 64 bytes").withHelp
      "Use a short A2A protocol version such as 1.0.")
  else if value.toList.any fun c => !isVersionCharacter c then
    .error ((MissiveError.config s!"{field} contains unsupported characters").withHelp
      "Use ASCII letters, digits, '.', '-' or '_' only.")
  else .ok ()

def validateA2aExtension (field value : String) : Except MissiveError Unit := do
  validateRequiredText field value
  if 512 < value.utf8ByteSize then
    .error (MissiveError.config s!"{field} extension identifier must be at most 512 bytes")
  else if value.toList.any isWhitespace || value.toList.contains ',' then
    .error ((MissiveError.config
      s!"{field} extension identifiers must not contain whitespace or commas").withHelp
      "Use compact URI-like extension identifiers.")
  else .ok ()

def validateConfigExtensions (field : String) (seen : List String) :
    List String → Except MissiveError Unit
  | [] => .ok ()
  | extension :: rest => do
      validateA2aExtension field extension
      if extension ∈ seen then
        .error ((MissiveError.config
          s!"{field} contains duplicate extension {debug extension}").withHelp
          "List each A2A extension at most once.")
      else validateConfigExtensions field (extension :: seen) rest

def validateHeaderName (field value : String) : Except MissiveError Unit := do
  validateRequiredText field value
  if value.toList.any fun c => !(isAsciiAlphanumeric c || c == '-') then
    .error ((MissiveError.config s!"{field} must be an HTTP header name").withHelp
      "Use ASCII letters, digits, and '-' only, for example Authorization.")
  else .ok ()

def validateConfigParameterValue (field value : String) : Except MissiveError Unit := do
  validateRequiredText field value
  if 8 * 1024 < value.utf8ByteSize then
    .error (MissiveError.config s!"{field} service parameter value must be at most 8192 bytes")
  else .ok ()

def validateConfigParameter (path : String) (entry : String × String) :
    Except MissiveError Unit := do
  validateHeaderName s!"{path}.service_parameters" entry.1
  if isReservedServiceParameterName entry.1 then
    .error ((MissiveError.config (s!"{path}.service_parameters must not redefine reserved A2A " ++
      s!"service parameter {debug entry.1}")).withHelp
      "Use protocol_version for A2A-Version and extensions for A2A-Extensions.")
  else validateConfigParameterValue s!"{path}.service_parameters.{entry.1}" entry.2

def ProtocolConfig.validate (config : ProtocolConfig) (path : String) :
    Except MissiveError Unit := do
  validateProtocolVersion s!"{path}.protocol_version" config.protocolVersion
  validateConfigExtensions s!"{path}.extensions" [] config.extensions
  config.serviceParameters.rows.forM (validateConfigParameter path)

-- What the command line puts over the configuration.
structure ServiceOverrides where
  protocolVersion : Option String
  a2aExtensions : List String
  serviceParams : List String

def splitGlobalKeyValue (flag value : String) : Except MissiveError (String × String) :=
  let name := value.toList.takeWhile fun c => c != '='
  match value.toList.dropWhile fun c => c != '=' with
  | [] => .error (MissiveError.validation s!"{flag} value {debug value} must use NAME=VALUE syntax")
  | _ :: raw =>
      if name.isEmpty || raw.isEmpty then
        .error (MissiveError.validation
          s!"{flag} value {debug value} must include a non-empty name and value")
      else .ok (String.ofList name, String.ofList raw)

def insertParams (extra : Table (String × String)) :
    List String → Except MissiveError (Table (String × String))
  | [] => .ok extra
  | value :: rest => do
      let entry ← splitGlobalKeyValue "--service-param" value
      insertParams (extra.put entry) rest

def serviceParametersFromConfigAndGlobals (rules : HeaderSyntax) (protocol : ProtocolConfig)
    (globals : ServiceOverrides) : Except MissiveError ServiceParameters := do
  let extra ← insertParams protocol.serviceParameters globals.serviceParams
  new rules (globals.protocolVersion.getD protocol.protocolVersion)
    (protocol.extensions ++ globals.a2aExtensions) extra.rows

/-! What a request has to carry. -/

def appliedHeaders (parameters : ServiceParameters) : Request :=
  (lowercaseName svcParamVersion, parameters.protocolVersion) ::
    ((if parameters.extensions.isEmpty then []
      else [(lowercaseName svcParamExtensions, ", ".intercalate parameters.extensions)]) ++
    parameters.extra.map fun entry => (lowercaseName entry.1, entry.2))

-- The entries of a header value that is a list.
def listed (value : String) : List Text := (value.toList.splitOn ',').map trim

structure Carried (parameters : ServiceParameters) (applied : Request) : Prop where
  once : (applied.map Prod.fst).Nodup
  version : (lowercaseName svcParamVersion, parameters.protocolVersion) ∈ applied
  extensions : parameters.extensions ≠ [] → ∃ value,
    (lowercaseName svcParamExtensions, value) ∈ applied ∧
    listed value = parameters.extensions.map String.toList ∧ (listed value).Nodup
  extra : ∀ entry ∈ parameters.extra, (lowercaseName entry.1, entry.2) ∈ applied

/-- The extensions fit into one value, the http crate takes the values, and no name comes twice,
however it is spelled, among the parameters and the headers the request has already. -/
structure Fits (rules : HeaderSyntax) (parameters : ServiceParameters) (request : Request) :
    Prop where
  size : parameters.extensions ≠ [] →
    (", ".intercalate parameters.extensions).utf8ByteSize ≤ 8 * 1024
  joined : parameters.extensions ≠ [] →
    rules.validValue (", ".intercalate parameters.extensions) = true
  values : ∀ entry ∈ parameters.extra, rules.validValue entry.2 = true
  names : (request.map Prod.fst ++ (appliedHeaders parameters).map Prod.fst).Nodup

-- Accepted by `validate`, or taken from a configuration that is.
def Accepted (rules : HeaderSyntax) (parameters : ServiceParameters) : Prop :=
  validate rules parameters = .ok () ∨
    ∃ (config : ProtocolConfig) (path : String) (globals : ServiceOverrides),
      config.validate path = .ok () ∧
      serviceParametersFromConfigAndGlobals rules config globals = .ok parameters

/-! What the checks leave. -/

section Checks

variable {rules : HeaderSyntax}

structure PlainValue (value : String) : Prop where
  filled : (trim value.toList).isEmpty = false
  short : value.utf8ByteSize ≤ 8 * 1024
  visible : ∀ c ∈ value.toList, isControl c = false

theorem validateServiceParameterValue_ok (name value : String) :
    validateServiceParameterValue name value = .ok () ↔ PlainValue value := by
  unfold validateServiceParameterValue
  constructor
  · intro passed
    split_ifs at passed with empty long control
    exact ⟨eq_false_of_ne_true empty, by omega, by simpa using control⟩
  · intro plain
    have control : ¬value.toList.any isControl = true := by simpa using plain.visible
    rw [plain.filled, if_neg Bool.false_ne_true, if_neg (by have := plain.short; omega),
      if_neg control]

structure PlainExtension (value : String) : Prop extends PlainValue value where
  solid : ∀ c ∈ value.toList, isWhitespace c = false
  uncut : ',' ∉ value.toList

theorem validateExtensionValue_ok {value : String} (passed : validateExtensionValue value = .ok ()) :
    PlainExtension value := by
  obtain ⟨_, plain, passed⟩ := Effects.except_bind_returned passed
  split_ifs at passed with broken
  rw [Bool.or_eq_true, not_or] at broken
  exact ⟨(validateServiceParameterValue_ok _ _).mp plain, by simpa using broken.1,
    by simpa using broken.2⟩

theorem validateExtensions_ok {extensions seen : List String}
    (passed : validateExtensionsAfter seen extensions = .ok ()) :
    (∀ extension ∈ extensions, PlainExtension extension ∧ extension ∉ seen) ∧
      extensions.Nodup := by
  induction extensions generalizing seen with
  | nil => exact ⟨nofun, List.nodup_nil⟩
  | cons extension rest ih =>
      obtain ⟨_, plain, passed⟩ := Effects.except_bind_returned passed
      split_ifs at passed with repeated
      obtain ⟨later, distinct⟩ := ih passed
      constructor
      · rw [List.forall_mem_cons]
        refine ⟨⟨validateExtensionValue_ok plain, repeated⟩, fun other member => ?_⟩
        exact ⟨(later other member).1, fun old =>
          (later other member).2 (List.mem_cons_of_mem extension old)⟩
      · rw [List.nodup_cons]
        exact ⟨fun member => (later extension member).2 List.mem_cons_self, distinct⟩

structure PlainExtra (rules : HeaderSyntax) (entry : String × String) : Prop where
  named : (rules.parseName entry.1).isSome = true
  value : PlainValue entry.2

theorem validateExtra_ok {entry : String × String}
    (passed : validateExtraServiceParameter rules entry.1 entry.2 = .ok ()) :
    PlainExtra rules entry := by
  obtain ⟨canonical, named, passed⟩ := Effects.except_bind_returned passed
  split_ifs at passed with reserved
  refine ⟨?_, (validateServiceParameterValue_ok _ _).mp passed⟩
  rw [serviceParameterHeaderName] at named
  cases parsed : rules.parseName entry.1 with
  | none =>
      rw [parsed] at named
      contradiction
  | some _ => rfl

structure Plain (rules : HeaderSyntax) (parameters : ServiceParameters) : Prop where
  version : PlainValue parameters.protocolVersion
  versionCharacters : ∀ c ∈ parameters.protocolVersion.toList, isVersionCharacter c = true
  extensions : ∀ extension ∈ parameters.extensions, PlainExtension extension
  distinct : parameters.extensions.Nodup
  extra : ∀ entry ∈ parameters.extra, PlainExtra rules entry

theorem validate_ok {parameters : ServiceParameters}
    (passed : validate rules parameters = .ok ()) : Plain rules parameters := by
  obtain ⟨_, version, passed⟩ := Effects.except_bind_returned passed
  obtain ⟨_, characters, passed⟩ := Effects.except_bind_returned passed
  obtain ⟨_, extensions, extra⟩ := Effects.except_bind_returned passed
  rw [validateProtocolVersionText] at characters
  split_ifs at characters with _ other
  obtain ⟨each, distinct⟩ := validateExtensions_ok extensions
  exact {
    version := (validateServiceParameterValue_ok _ _).mp version
    versionCharacters := by simpa using other
    extensions := fun extension member => (each extension member).1
    distinct := distinct
    extra := fun entry member =>
      validateExtra_ok (Effects.except_forM_each extra entry member) }

theorem new_validates {protocolVersion : String} {extensions : List String}
    {extra : List (String × String)} {parameters : ServiceParameters}
    (made : new rules protocolVersion extensions extra = .ok parameters) :
    validate rules parameters = .ok () := by
  obtain ⟨_, passed, made⟩ := Effects.except_bind_returned made
  cases made
  exact passed

theorem accepted_validates {parameters : ServiceParameters}
    (accepted : Accepted rules parameters) : validate rules parameters = .ok () := by
  cases accepted with
  | inl passed => exact passed
  | inr configured =>
      obtain ⟨config, path, globals, _, made⟩ := configured
      obtain ⟨_, _, made⟩ := Effects.except_bind_returned made
      exact new_validates made

end Checks

/-! Extensions in one value. -/

section Joined

variable {extensions : List String}

theorem mem_joined {c : Char} (member : c ∈ (", ".intercalate extensions).toList) :
    c = ',' ∨ c = ' ' ∨ ∃ extension ∈ extensions, c ∈ extension.toList := by
  induction extensions with
  | nil => simp at member
  | cons extension rest ih =>
      by_cases last : rest = []
      · subst last
        rw [String.intercalate_singleton] at member
        exact Or.inr (Or.inr ⟨extension, List.mem_cons_self, member⟩)
      · rw [String.intercalate_cons_of_ne_nil last] at member
        simp only [String.toList_append, List.mem_append] at member
        rcases member with (here | comma) | later
        · exact Or.inr (Or.inr ⟨extension, List.mem_cons_self, here⟩)
        · have either : c = ',' ∨ c = ' ' := by simpa using comma
          exact either.imp_right Or.inl
        · refine (ih later).imp_right (Or.imp_right ?_)
          rintro ⟨other, listed, inside⟩
          exact ⟨other, List.mem_cons_of_mem extension listed, inside⟩

theorem joined_plain (filled : extensions ≠ [])
    (plain : ∀ extension ∈ extensions, PlainExtension extension)
    (short : (", ".intercalate extensions).utf8ByteSize ≤ 8 * 1024) :
    PlainValue (", ".intercalate extensions) := by
  refine ⟨?_, short, ?_⟩
  · cases extensions with
    | nil => contradiction
    | cons extension rest =>
        cases trimmed : trim (", ".intercalate (extension :: rest)).toList with
        | cons => rfl
        | nil =>
            -- A blank text has no character of the first extension that is not blank.
            have blank : trim extension.toList = [] := by
              refine trim_eq_nil.mpr fun c member => trim_eq_nil.mp trimmed c ?_
              by_cases last : rest = []
              · simpa [last] using member
              · rw [String.intercalate_cons_of_ne_nil last]
                simp [member]
            have filled := (plain extension List.mem_cons_self).filled
            rw [blank] at filled
            contradiction
  · intro c member
    rcases mem_joined member with rfl | rfl | ⟨extension, listed, inside⟩
    · decide
    · decide
    · exact (plain extension listed).visible c inside

theorem trim_spaced {value : Text} (solid : ∀ c ∈ value, isWhitespace c = false) :
    trim (' ' :: value) = value := by
  have blank : isWhitespace ' ' = true := by decide
  rw [trim, List.dropWhile_cons, if_pos blank, ← trim, trim_solid solid]

theorem intercalate_spaced (first : Text) (rest : List Text) :
    [',', ' '].intercalate (first :: rest) =
      [','].intercalate (first :: rest.map fun part => ' ' :: part) := by
  induction rest generalizing first with
  | nil => simp [List.intercalate]
  | cons next rest ih =>
      have moved : [','].intercalate ((' ' :: next) :: rest.map fun part => ' ' :: part) =
          ' ' :: [','].intercalate (next :: rest.map fun part => ' ' :: part) := by
        cases rest <;> simp [List.intercalate]
      have left : [',', ' '].intercalate (first :: next :: rest) =
          first ++ ([',', ' '] ++ [',', ' '].intercalate (next :: rest)) := by
        simp [List.intercalate]
      rw [left, ih, List.map_cons]
      have right : [','].intercalate (first :: (' ' :: next) :: rest.map fun part => ' ' :: part) =
          first ++ ([','] ++ [','].intercalate
            ((' ' :: next) :: rest.map fun part => ' ' :: part)) := by
        simp [List.intercalate]
      rw [right, moved]
      rfl

theorem listed_joined (filled : extensions ≠ [])
    (plain : ∀ extension ∈ extensions, PlainExtension extension) :
    listed (", ".intercalate extensions) = extensions.map String.toList := by
  cases extensions with
  | nil => contradiction
  | cons first rest =>
      rw [List.forall_mem_cons] at plain
      have whole : (", ".intercalate (first :: rest)).toList = [','].intercalate
          (first.toList :: (rest.map String.toList).map fun part => ' ' :: part) := by
        rw [String.toList_intercalate, List.map_cons, ← intercalate_spaced]
        rfl
      have uncut : ∀ part ∈ first.toList ::
          (rest.map String.toList).map (fun part => ' ' :: part), ',' ∉ part := by
        rw [List.forall_mem_cons]
        refine ⟨plain.1.uncut, ?_⟩
        intro part member
        obtain ⟨text, listed, rfl⟩ := List.mem_map.mp member
        obtain ⟨extension, known, rfl⟩ := List.mem_map.mp listed
        simpa using (plain.2 extension known).uncut
      rw [listed, whole, List.splitOn_intercalate ',' uncut (List.cons_ne_nil _ _), List.map_cons,
        List.map_cons, trim_solid plain.1.solid, List.map_map, List.map_map]
      congr 1
      apply List.map_congr_left
      intro extension known
      exact trim_spaced (plain.2 extension known).solid

end Joined

/-! What is applied. -/

section Apply

variable {rules : HeaderSyntax} {parameters : ServiceParameters}

theorem headerValue_ok {name value given : String} (plain : PlainValue value) :
    serviceParameterHeaderValue rules name value = .ok given ↔
      rules.validValue value = true ∧ given = value := by
  rw [serviceParameterHeaderValue, (validateServiceParameterValue_ok name value).mpr plain]
  change (if rules.validValue value = true then Except.ok value else _) = _ ↔ _
  by_cases valid : rules.validValue value = true
  · simp [valid, eq_comm]
  · simp [valid]

theorem headerName_ok (documented : rules.Documented) {entry : String × String}
    (plain : PlainExtra rules entry) :
    serviceParameterHeaderName rules entry.1 = .ok (lowercaseName entry.1) := by
  cases parsed : rules.parseName entry.1 with
  | none =>
      have named := plain.named
      rw [parsed] at named
      contradiction
  | some canonical =>
      rw [serviceParameterHeaderName, parsed, documented.lowered parsed]

theorem applyExtra_ok (documented : rules.Documented) {extra : List (String × String)}
    (plain : ∀ entry ∈ extra, PlainExtra rules entry) {request applied : Request} :
    applyExtra rules request extra = .ok applied ↔
      (∀ entry ∈ extra, rules.validValue entry.2 = true) ∧
        applied = request ++ extra.map fun entry => (lowercaseName entry.1, entry.2) := by
  induction extra generalizing request with
  | nil =>
      rw [applyExtra, Except.ok.injEq, List.map_nil, List.append_nil]
      exact ⟨fun same => ⟨nofun, same.symm⟩, fun fits => fits.2.symm⟩
  | cons entry rest ih =>
      rw [List.forall_mem_cons] at plain ⊢
      rw [applyExtra, headerName_ok documented plain.1]
      change (serviceParameterHeaderValue rules entry.1 entry.2 >>= _) = _ ↔ _
      by_cases valid : rules.validValue entry.2 = true
      · rw [(headerValue_ok plain.1.value).mpr ⟨valid, rfl⟩]
        change applyExtra rules (request.header _ entry.2) rest = _ ↔ _
        rw [ih plain.2]
        simp [valid, Request.header]
      · constructor
        · intro passed
          obtain ⟨_, value, _⟩ := Effects.except_bind_returned passed
          exact absurd ((headerValue_ok plain.1.value).mp value).1 valid
        · intro fits
          exact absurd fits.1.1 valid

theorem applyExtensions_ok (plain : Plain rules parameters) {request applied : Request} :
    applyExtensions rules request parameters.extensions = .ok applied ↔
      (parameters.extensions ≠ [] →
        (", ".intercalate parameters.extensions).utf8ByteSize ≤ 8 * 1024 ∧
        rules.validValue (", ".intercalate parameters.extensions) = true) ∧
      applied = request ++ if parameters.extensions.isEmpty then []
        else [(lowercaseName svcParamExtensions, ", ".intercalate parameters.extensions)] := by
  by_cases empty : parameters.extensions = []
  · have blank : parameters.extensions.isEmpty = true := by simp [empty]
    rw [applyExtensions, if_pos blank, if_pos blank, Except.ok.injEq, List.append_nil]
    exact ⟨fun same => ⟨fun filled => absurd empty filled, same.symm⟩, fun fits => fits.2.symm⟩
  · have solid : ¬parameters.extensions.isEmpty = true := by simpa using empty
    rw [applyExtensions, if_neg solid, if_neg solid]
    simp only [empty, not_false_eq_true, true_implies, ne_eq]
    by_cases short : (", ".intercalate parameters.extensions).utf8ByteSize ≤ 8 * 1024
    · have joined := joined_plain empty plain.extensions short
      by_cases valid : rules.validValue (", ".intercalate parameters.extensions) = true
      · rw [(headerValue_ok joined).mpr ⟨valid, rfl⟩]
        change Except.ok (request.header _ _) = _ ↔ _
        rw [Except.ok.injEq]
        exact ⟨fun same => ⟨⟨short, valid⟩, same.symm⟩, fun fits => fits.2.symm⟩
      · constructor
        · intro passed
          obtain ⟨_, value, _⟩ := Effects.except_bind_returned passed
          exact absurd ((headerValue_ok joined).mp value).1 valid
        · intro fits
          exact absurd fits.1.2 valid
    · constructor
      · intro passed
        obtain ⟨_, value, _⟩ := Effects.except_bind_returned passed
        obtain ⟨_, checked, _⟩ := Effects.except_bind_returned value
        exact absurd ((validateServiceParameterValue_ok _ _).mp checked).short short
      · intro fits
        exact absurd fits.1.1 short

theorem version_visible {value : String}
    (plain : ∀ c ∈ value.toList, isVersionCharacter c = true) :
    ∀ c ∈ value.toList, 0x20 ≤ c.toNat ∧ c.toNat ≤ 0x7E := by
  intro c member
  have kept : isAsciiAlphanumeric c = true ∨ c = '.' ∨ c = '-' ∨ c = '_' := by
    simpa [isVersionCharacter, or_assoc] using plain c member
  rcases kept with letter | rfl | rfl | rfl
  · have codes := alphanumeric_codes c letter
    omega
  all_goals decide

theorem apply_ok (documented : rules.Documented) (passed : validate rules parameters = .ok ())
    {request applied : Request} :
    applyToBlockingRequest rules parameters request = .ok applied ↔
      (parameters.extensions ≠ [] →
        (", ".intercalate parameters.extensions).utf8ByteSize ≤ 8 * 1024 ∧
        rules.validValue (", ".intercalate parameters.extensions) = true) ∧
      (∀ entry ∈ parameters.extra, rules.validValue entry.2 = true) ∧
      applied = request ++ appliedHeaders parameters := by
  have plain := validate_ok passed
  have version := documented.visible (version_visible plain.versionCharacters)
  rw [applyToBlockingRequest, passed]
  change (serviceParameterHeaderValue rules svcParamVersion parameters.protocolVersion >>= _) = _ ↔ _
  rw [(headerValue_ok plain.version).mpr ⟨version, rfl⟩]
  change (applyExtensions rules _ parameters.extensions >>= _) = _ ↔ _
  have headers (before : Request) (middle : Request) :
      before.header (lowercaseName svcParamVersion) parameters.protocolVersion ++ middle ++
        (parameters.extra.map fun entry => (lowercaseName entry.1, entry.2)) =
      before ++ (lowercaseName svcParamVersion, parameters.protocolVersion) ::
        (middle ++ parameters.extra.map fun entry => (lowercaseName entry.1, entry.2)) := by
    simp [Request.header]
  constructor
  · intro applied'
    obtain ⟨middle, extended, extra⟩ := Effects.except_bind_returned applied'
    obtain ⟨fits, rfl⟩ := (applyExtensions_ok plain).mp extended
    obtain ⟨values, rfl⟩ := (applyExtra_ok documented plain.extra).mp extra
    exact ⟨fits, values, headers _ _⟩
  · rintro ⟨fits, values, rfl⟩
    rw [(applyExtensions_ok plain).mpr ⟨fits, rfl⟩]
    exact (applyExtra_ok documented plain.extra).mpr ⟨values, (headers _ _).symm⟩

/-- Accepted parameters apply, and every header comes once, exactly when they fit. -/
theorem service_headers_iff (documented : rules.Documented) (accepted : Accepted rules parameters)
    (request : Request) :
    (∃ applied, applyToBlockingRequest rules parameters request = .ok applied ∧
      Carried parameters applied) ↔ Fits rules parameters request := by
  have passed := accepted_validates accepted
  have plain := validate_ok passed
  constructor
  · rintro ⟨applied, ran, carried⟩
    obtain ⟨fits, values, rfl⟩ := (apply_ok documented passed).mp ran
    have once := carried.once
    rw [List.map_append] at once
    exact ⟨fun filled => (fits filled).1, fun filled => (fits filled).2, values, once⟩
  · intro fits
    refine ⟨request ++ appliedHeaders parameters, (apply_ok documented passed).mpr
      ⟨fun filled => ⟨fits.size filled, fits.joined filled⟩, fits.values, rfl⟩, ?_⟩
    refine ⟨?_, ?_, ?_, ?_⟩
    · rw [List.map_append]
      exact fits.names
    · exact List.mem_append_right _ List.mem_cons_self
    · intro filled
      have solid : ¬parameters.extensions.isEmpty = true := by simpa using filled
      have entries := listed_joined filled plain.extensions
      refine ⟨", ".intercalate parameters.extensions, ?_, entries, ?_⟩
      · apply List.mem_append_right
        apply List.mem_cons_of_mem
        rw [if_neg solid]
        exact List.mem_append_left _ (List.mem_singleton_self _)
      · rw [entries]
        exact plain.distinct.map fun _ _ same => String.toList_injective same
    · intro entry member
      apply List.mem_append_right
      apply List.mem_cons_of_mem
      exact List.mem_append_right _ (List.mem_map_of_mem member)

end Apply

/-! Names are tokens and values visible ASCII. -/

section Tokens

def isTokenCharacter (c : Char) : Bool :=
  isAsciiAlphanumeric c || "!#$%&'*+-.^_|~".toList.contains c || c.toNat == 0x60

def tokenRules : HeaderSyntax where
  parseName name :=
    if name ≠ "" ∧ name.toList.all isTokenCharacter then some (lowercaseName name) else none
  validValue value := value.toList.all fun c => 0x20 ≤ c.toNat && c.toNat ≤ 0x7E

theorem tokens_documented : tokenRules.Documented where
  lowered := by
    intro name canonical parsed
    simp only [tokenRules] at parsed
    split_ifs at parsed
    exact (Option.some.inj parsed).symm
  visible := by
    intro value plain
    simpa [tokenRules] using plain

def traced : ServiceParameters where
  protocolVersion := "1.1"
  extensions := ["urn:example:one", "urn:example:two"]
  extra := [("A2A-Trace", "trace-1")]

theorem traced_carried :
    ∃ applied, applyToBlockingRequest tokenRules traced [("accept", "application/json")] =
      .ok applied ∧ Carried traced applied :=
  (service_headers_iff tokens_documented (Or.inl (by decide)) [("accept", "application/json")]).mpr
    ⟨fun _ => by decide, fun _ => by decide, by decide, by decide⟩

-- Two spellings of one name are two keys of the map.
def respelled : ServiceParameters where
  protocolVersion := "1.0"
  extensions := []
  extra := [("X-Trace", "first"), ("x-trace", "second")]

theorem respelled_twice : tokenRules.Documented ∧ Accepted tokenRules respelled ∧
    ¬∃ applied, applyToBlockingRequest tokenRules respelled [("accept", "application/json")] =
      .ok applied ∧ Carried respelled applied := by
  refine ⟨tokens_documented, Or.inl (by decide), ?_⟩
  rintro ⟨applied, ran, carried⟩
  have sent : applyToBlockingRequest tokenRules respelled [("accept", "application/json")] =
      .ok [("accept", "application/json"), ("a2a-version", "1.0"), ("x-trace", "first"),
        ("x-trace", "second")] := by decide
  cases ran.symm.trans sent
  exact absurd carried.once (by decide)

end Tokens

end Missive.ServiceHeaders
