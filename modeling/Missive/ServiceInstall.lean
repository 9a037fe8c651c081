import Missive.Effects
import Missive.ServicePlists
import Missive.ServiceUnits

/-! What a supervisor makes of the service file that an install writes: the command it runs, the
environment it gives it, and the settings that the file has. -/
namespace Missive.ServiceInstall

open RustText (Text)
open ByteLines (utf8 decode decode_utf8 utf8_decoded utf8_injective ascii_in_encoding)
open Effects (except_bind_returned except_forM_each)
open SystemdUnits (Host Kept Paired isInner inert expand substitute known)
open ServiceFiles
open ServiceUnits
open PropertyLists (Value isXmlChar lineFeeds)
open ServicePlists (plistPieces plistRows bothFed AllXml stdoutPath stderrPath)

/-! What is asked. -/

def givenArguments (options : GatewayServiceOptions) : List PathBytes :=
  (match options.configPath with
    | some configPath => [utf8 "--config".toList, configPath]
    | none => []) ++
  [utf8 "--profile".toList, utf8 options.profile.toList, utf8 "gateway".toList, utf8 "run".toList]

def unitKeys (environment : Environment) : List (Text × Text) :=
  ([("Unit", "Description"), ("Unit", "Documentation"), ("Unit", "After"), ("Unit", "Wants"),
    ("Service", "Type"), ("Service", "ExecStart")] ++
    environment.rows.map (fun _ => ("Service", "Environment")) ++
    [("Service", "Restart"), ("Service", "RestartSec"), ("Install", "WantedBy")]).map
      fun key => (key.1.toList, key.2.toList)

/-- The unit has the directives of the template and no other, and they say the given command and
the given environment. -/
structure UnitSays (executable : PathBytes) (options : GatewayServiceOptions)
    (service : SystemdUnits.Service) : Prop where
  keys : service.keys = unitKeys options.environment
  environment : service.environment = environmentTexts options.environment
  command : ∃ command, service.commands = [command] ∧ utf8 command.path = executable ∧
    command.arguments.map utf8 = givenArguments options

def plistKeys (environment : Environment) : List Text :=
  (["Label", "ProgramArguments"] ++
    (if environment.rows = [] then [] else ["EnvironmentVariables"]) ++
    ["KeepAlive", "RunAtLoad", "StandardOutPath", "StandardErrorPath"]).map String.toList

/-- The property list has the keys of the template and no other, and they say the given command and
the given environment. -/
structure PlistSays (executable : PathBytes) (options : GatewayServiceOptions)
    (rows : List (Text × PropertyLists.Value)) : Prop where
  keys : rows.map Prod.fst = plistKeys options.environment
  command : ∃ words : List Text, words.map utf8 = executable :: givenArguments options ∧
    rows.lookup "ProgramArguments".toList = some (.array (words.map .string))
  environment : rows.lookup "EnvironmentVariables".toList =
    if options.environment.rows = [] then none
    else some (.dict ((environmentTexts options.environment).map fun row => (row.1, .string row.2)))

/-- Whatever its documentation leaves to the host, the supervisor reads what was asked. -/
def SaysWhatWasAsked (options : GatewayServiceOptions) (file : String) :
    GatewayServicePlatform → Prop
  | .linuxSystemd => ∃ executable, options.executable = some executable ∧ ∀ host,
      ∃ service, SystemdUnits.read host file.toList = some service ∧
        UnitSays executable options service
  | .macosLaunchd => ∃ executable, options.executable = some executable ∧
      ∃ rows, PropertyLists.read file.toList = some (.dict rows) ∧
        PlistSays executable options rows

/-! When it does. -/

def paths (options : GatewayServiceOptions) : List PathBytes :=
  options.executable.toList ++ options.configPath.toList

def chosenArguments (options : GatewayServiceOptions) : List Text :=
  options.configPath.toList.map (fun path => (display path).toList) ++ [options.profile.toList]

def executableTexts (options : GatewayServiceOptions) : List Text :=
  options.executable.toList.map fun path => (display path).toList

def commandTexts (options : GatewayServiceOptions) : List Text :=
  executableTexts options ++ chosenArguments options

def valueTexts (options : GatewayServiceOptions) : List Text :=
  options.environment.rows.map fun row => row.2.toList

/-- No line end in the command, no percent sign that begins a specifier, and in the arguments no
dollar sign either that puts another text there. -/
structure UnitSafe (options : GatewayServiceOptions) : Prop where
  lines : ∀ text ∈ commandTexts options, '\n' ∉ text ∧ '\r' ∉ text ∧ '\x00' ∉ text
  specifiers : ∀ text ∈ executableTexts options ++ valueTexts options, inert text = true
  arguments : ∀ text ∈ chosenArguments options, Kept (environmentTexts options.environment) text

/-- No carriage return in the command, and only characters that XML has. -/
structure PlistSafe (options : GatewayServiceOptions) : Prop where
  returns : ∀ text ∈ commandTexts options, '\r' ∉ text
  characters : ∀ text ∈ commandTexts options ++ valueTexts options,
    text.all PropertyLists.isXmlChar = true

def Safe (options : GatewayServiceOptions) : GatewayServicePlatform → Prop
  | .linuxSystemd => UnitSafe options
  | .macosLaunchd => PlistSafe options

/-! What the checks let through. -/

def isNameChar (c : Char) : Bool := c = '_' || RustText.isAsciiAlphanumeric c

structure Accepted (executable : PathBytes) (options : GatewayServiceOptions) : Prop where
  given : options.executable = some executable
  absolute : isAbsolute executable = true
  names : ∀ row ∈ options.environment.rows, ∀ c ∈ row.1.toList, isNameChar c = true
  values : ∀ row ∈ options.environment.rows,
    '\x00' ∉ row.2.toList ∧ '\n' ∉ row.2.toList ∧ '\r' ∉ row.2.toList

theorem validateEnvName_accepts {name : String} (passed : validateEnvName name = .ok ()) :
    ∀ c ∈ name.toList, isNameChar c = true := by
  unfold validateEnvName at passed
  split at passed
  · cases passed
  · rename_i first rest chars
    split at passed
    · cases passed
    · rename_i starts
      split at passed
      · cases passed
      · rename_i goes
        rw [chars]
        intro c member
        rcases List.mem_cons.mp member with rfl | later
        · simp only [Bool.not_eq_true, Bool.not_eq_false', Bool.or_eq_true] at starts
          simp only [isNameChar, RustText.isAsciiAlphanumeric, Bool.or_eq_true]
          unfold isAsciiAlphabetic at starts
          simp only [Bool.or_eq_true] at starts
          tauto
        · simp only [Bool.not_eq_true, Bool.not_eq_false', List.all_eq_true] at goes
          exact goes c later

theorem validateServiceEnvironment_accepts {name value : String}
    (passed : validateServiceEnvironment name value = .ok ()) :
    (∀ c ∈ name.toList, isNameChar c = true) ∧
      '\x00' ∉ value.toList ∧ '\n' ∉ value.toList ∧ '\r' ∉ value.toList := by
  obtain ⟨_, named, rest⟩ := except_bind_returned passed
  refine ⟨validateEnvName_accepts named, ?_⟩
  split at rest
  · cases rest
  · split at rest
    · cases rest
    · rename_i clear
      simpa only [not_or] using clear

theorem validateOptions_accepts {isFile : PathBytes → Bool} {options : GatewayServiceOptions}
    {platform : GatewayServicePlatform} {executable : PathBytes}
    (passed : validateOptions isFile options platform = .ok executable) :
    Accepted executable options := by
  unfold validateOptions at passed
  split at passed
  · cases passed
  · obtain ⟨found, known, rest⟩ := except_bind_returned passed
    obtain ⟨_, checked, rest⟩ := except_bind_returned rest
    have same : found = executable := by
      obtain ⟨_, _, last⟩ := except_bind_returned rest
      split at last
      · cases last
      · cases last
        rfl
    subst same
    have each := fun row member => validateServiceEnvironment_accepts
      (except_forM_each checked row member)
    have given : options.executable = some found ∧ isAbsolute found = true := by
      unfold validateExecutable at known
      split at known
      · cases known
      · rename_i path shape
        split at known
        · cases known
        · rename_i absolute
          split at known
          · cases known
          · cases known
            exact ⟨shape, by simpa using absolute⟩
    exact ⟨given.1, given.2, fun row member => (each row member).1,
      fun row member => (each row member).2⟩

theorem isNameChar_plain {c : Char} (named : isNameChar c = true) :
    isInner c = true ∧ c ≠ '\r' ∧ c ≠ '=' ∧ c ≠ '%' := by
  have other {d : Char} (unnamed : isNameChar d = false) : c ≠ d := by
    rintro rfl
    rw [named] at unnamed
    cases unnamed
  have feed := @other '\n' (by decide)
  have nul := @other '\x00' (by decide)
  have returned := @other '\r' (by decide)
  refine ⟨?_, returned, other (by decide), other (by decide)⟩
  simp [isInner, feed, nul, returned]

/-! Paths and what is shown of them. -/

theorem display_decoded {path : PathBytes} (valid : (decode path).isSome = true) :
    utf8 (display path).toList = path := by
  obtain ⟨text, decoded⟩ := Option.isSome_iff_exists.mp valid
  have shown : display path = text := by rw [display, decoded]
  rw [shown, utf8_decoded decoded]

theorem decode_given {path : PathBytes} {text : Text} (same : utf8 text = path) :
    (decode path).isSome = true ∧ (display path).toList = text := by
  subst same
  simp [display, decode_utf8]

theorem absolute_start {text : Text} (absolute : isAbsolute (utf8 text) = true) :
    text.head? = some '/' := by
  have first : (utf8 text).head? = some 0x2F := by simpa [isAbsolute] using absolute
  cases text with
  | nil => cases first
  | cons c rest =>
      have member : 0x2F ∈ String.utf8EncodeChar c := by
        have shape : utf8 (c :: rest) = String.utf8EncodeChar c ++ utf8 rest := List.flatMap_cons
        rw [shape, List.head?_append_of_ne_nil _ (String.utf8EncodeChar_ne_nil)] at first
        exact List.mem_of_mem_head? first
      have code := ascii_in_encoding (by decide) member
      have same : c = '/' := Char.toNat_inj.mp code
      rw [same]
      rfl

def runTexts (options : GatewayServiceOptions) : List Text :=
  (gatewayRunArguments options).map String.toList

theorem givenArguments_texts {options : GatewayServiceOptions}
    (valid : ∀ path ∈ options.configPath, (decode path).isSome = true) :
    (runTexts options).map utf8 = givenArguments options := by
  unfold runTexts gatewayRunArguments givenArguments
  cases config : options.configPath with
  | none => rfl
  | some path =>
      have same := display_decoded (valid path config)
      simp [same]

def fixedTexts : List Text := ["--config", "--profile", "gateway", "run"].map String.toList

theorem fixedTexts_plain : ∀ text ∈ fixedTexts, inert text = true ∧ '$' ∉ text ∧
    text.all isInner = true ∧ text.all PropertyLists.isPlain = true := by
  decide

theorem runTexts_cases {options : GatewayServiceOptions} :
    ∀ text ∈ runTexts options, text ∈ fixedTexts ∨ text ∈ chosenArguments options := by
  intro text member
  unfold runTexts gatewayRunArguments at member
  unfold chosenArguments fixedTexts
  cases config : options.configPath with
  | none =>
      rw [config] at member
      simp only [List.nil_append, List.map_cons, List.map_nil, List.mem_cons, List.not_mem_nil,
        Option.toList_none] at member ⊢
      tauto
  | some path =>
      rw [config] at member
      simp only [List.cons_append, List.nil_append, List.map_cons, List.map_nil, List.mem_cons,
        List.not_mem_nil, Option.toList_some] at member ⊢
      tauto

theorem chosen_runs {options : GatewayServiceOptions} :
    ∀ text ∈ chosenArguments options, text ∈ runTexts options := by
  intro text member
  unfold chosenArguments at member
  unfold runTexts gatewayRunArguments
  cases config : options.configPath with
  | none =>
      rw [config] at member
      simp only [Option.toList_none, List.map_nil, List.nil_append, List.mem_singleton] at member
      simp [member]
  | some path =>
      rw [config] at member
      simp only [Option.toList_some, List.map_cons, List.map_nil, List.cons_append, List.nil_append,
        List.mem_cons, List.not_mem_nil, or_false] at member
      rcases member with rfl | rfl
      · simp
      · simp

/-! The unit. -/

theorem unit_keys (executable : Text) (arguments : List Text) (environment : Environment)
    (scope : GatewayServiceScope) :
    (unitDirectives (executable :: arguments) (environmentTexts environment) scope).map
        (fun directive => (directive.heading, directive.key)) = unitKeys environment := by
  have first : directivesBefore.map (fun directive => (directive.heading, directive.key)) =
      [("Unit", "Description"), ("Unit", "Documentation"), ("Unit", "After"), ("Unit", "Wants"),
        ("Service", "Type")].map fun key => (key.1.toList, key.2.toList) := by
    decide
  have last : (directivesAfter scope).map (fun directive => (directive.heading, directive.key)) =
      [("Service", "Restart"), ("Service", "RestartSec"), ("Install", "WantedBy")].map
        fun key => (key.1.toList, key.2.toList) := by
    cases scope with
    | user => decide
    | system => decide
  have middle : ((environmentTexts environment).map environmentDirective).map
      (fun directive => (directive.heading, directive.key)) =
        (environment.rows.map fun _ => ("Service", "Environment")).map
          fun key => (key.1.toList, key.2.toList) := by
    rw [environmentTexts, List.map_map, List.map_map, List.map_map]
    exact List.map_congr_left fun row _ => rfl
  simp only [unitDirectives, unitKeys, List.map_append, first, last, middle, List.map_cons,
    List.map_nil, List.cons_append, List.nil_append]
  rfl

theorem unit_whole {executable : PathBytes} {options : GatewayServiceOptions}
    (accepted : Accepted executable options)
    (lines : ∀ text ∈ commandTexts options, '\n' ∉ text ∧ '\r' ∉ text ∧ '\x00' ∉ text)
    (host : Host) :
    Whole host ((display executable).toList :: runTexts options)
      (environmentTexts options.environment) := by
  have clear {text : Text} (absent : '\n' ∉ text ∧ '\r' ∉ text ∧ '\x00' ∉ text) :
      ∀ c ∈ text, host.ends c = false := by
    intro c member
    apply SystemdUnits.ends_inner
    have feed : c ≠ '\n' := fun same => absent.1 (same ▸ member)
    have returned : c ≠ '\r' := fun same => absent.2.1 (same ▸ member)
    have nul : c ≠ '\x00' := fun same => absent.2.2 (same ▸ member)
    simp [isInner, feed, returned, nul]
  constructor
  · intro text member
    rcases List.mem_cons.mp member with rfl | argument
    · apply clear
      apply lines
      simp [commandTexts, executableTexts, accepted.given]
    · rcases runTexts_cases text argument with fixed | chosen
      · have inner := (fixedTexts_plain text fixed).2.2.1
        exact fun c inside =>
          SystemdUnits.ends_inner host (List.all_eq_true.mp inner c inside)
      · exact clear (lines text (List.mem_append_right _ chosen))
  · intro row member c inside
    obtain ⟨given, listed, rfl⟩ := List.mem_map.mp member
    have plain := isNameChar_plain (accepted.names given listed c inside)
    exact SystemdUnits.ends_inner host plain.1
  · intro row member
    obtain ⟨given, listed, rfl⟩ := List.mem_map.mp member
    have absent := accepted.values given listed
    exact clear ⟨absent.2.1, absent.2.2, absent.1⟩

theorem unit_names {executable : PathBytes} {options : GatewayServiceOptions}
    (accepted : Accepted executable options) :
    ∀ row ∈ environmentTexts options.environment, '=' ∉ row.1 ∧ '%' ∉ row.1 := by
  intro row member
  obtain ⟨given, listed, rfl⟩ := List.mem_map.mp member
  constructor
  · exact fun sign => (isNameChar_plain (accepted.names given listed _ sign)).2.2.1 rfl
  · exact fun sign => (isNameChar_plain (accepted.names given listed _ sign)).2.2.2 rfl

-- What a host reads, where no line end stands in the command.
theorem unit_read {executable : PathBytes} {options : GatewayServiceOptions}
    (accepted : Accepted executable options) (valid : (decode executable).isSome = true)
    (lines : ∀ text ∈ commandTexts options, '\n' ∉ text ∧ '\r' ∉ text ∧ '\x00' ∉ text)
    (host : Host) :
    SystemdUnits.read host (renderSystemdUnit executable (gatewayRunArguments options)
        options.environment options.scope).toList =
      some ⟨unitKeys options.environment,
        (environmentTexts options.environment).map fun row => (row.1, expand host.specifier row.2),
        [runsAs host ((environmentTexts options.environment).map fun row =>
          (row.1, expand host.specifier row.2)) (display executable).toList
            (runTexts options)]⟩ := by
  have start : (display executable).toList.head? = some '/' := by
    apply absolute_start
    rw [display_decoded valid]
    exact accepted.absolute
  have read := read_unit host options.scope (unit_whole accepted lines host) start
    (unit_names accepted)
  rw [unit_keys] at read
  rw [renderSystemdUnit_lines]
  exact read

theorem substituted {host : Host} {rows : List (Text × Text)} {texts : List Text}
    (each : ∀ text ∈ texts, Kept rows text) :
    (texts.map (expand host.specifier)).flatMap (substitute (known host.manager rows)) = texts := by
  induction texts with
  | nil => rfl
  | cons text rest ih =>
      have here := each text List.mem_cons_self host
      have later := ih fun other member => each other (List.mem_cons_of_mem _ member)
      rw [List.map_cons, List.flatMap_cons, here, later]
      rfl

theorem fixed_kept {rows : List (Text × Text)} : ∀ text ∈ fixedTexts, Kept rows text := by
  intro text member
  obtain ⟨calm, plain, _⟩ := fixedTexts_plain text member
  exact SystemdUnits.kept_plain calm plain

theorem unit_says {executable : PathBytes} {options : GatewayServiceOptions}
    (accepted : Accepted executable options)
    (valid : ∀ path ∈ paths options, (decode path).isSome = true) (safe : UnitSafe options) :
    SaysWhatWasAsked options (renderSystemdUnit executable (gatewayRunArguments options)
      options.environment options.scope) .linuxSystemd := by
  refine ⟨executable, accepted.given, fun host => ?_⟩
  have present : executable ∈ paths options := by simp [paths, accepted.given]
  have values : (environmentTexts options.environment).map
      (fun row => (row.1, expand host.specifier row.2)) = environmentTexts options.environment := by
    rw [List.map_congr_left (g := id), List.map_id]
    intro row member
    obtain ⟨given, listed, rfl⟩ := List.mem_map.mp member
    have calm : inert given.2.toList = true := by
      apply safe.specifiers
      exact List.mem_append_right _ (List.mem_map_of_mem listed)
    exact congrArg (Prod.mk _) (SystemdUnits.expand_inert host.letters calm)
  have arguments : ∀ text ∈ runTexts options, Kept (environmentTexts options.environment) text := by
    intro text member
    rcases runTexts_cases text member with fixed | chosen
    · exact fixed_kept text fixed
    · exact safe.arguments text chosen
  have calm : inert (display executable).toList = true := by
    apply safe.specifiers
    simp [executableTexts, accepted.given]
  refine ⟨_, unit_read accepted (valid executable present) safe.lines host, rfl, values,
    _, rfl, ?_, ?_⟩
  · have same := SystemdUnits.expand_inert host.letters calm
    rw [runsAs, same, display_decoded (valid executable present)]
  · rw [runsAs, values, substituted arguments]
    apply givenArguments_texts
    intro path given
    exact valid path (List.mem_append_right _ (Option.mem_toList.mpr given))

/-! What a unit that is read as asked holds. -/

-- The words of a command are the ones that were given.
theorem given_texts {options : GatewayServiceOptions} {words : List Text}
    (same : words.map utf8 = givenArguments options) :
    (∀ path ∈ options.configPath, (decode path).isSome = true) ∧ words = runTexts options := by
  have valid : ∀ path ∈ options.configPath, (decode path).isSome = true := by
    intro path given
    have listed : path ∈ givenArguments options := by
      rw [givenArguments, Option.mem_def.mp given]
      simp
    rw [← same] at listed
    obtain ⟨word, _, encoded⟩ := List.mem_map.mp listed
    exact (decode_given encoded).1
  refine ⟨valid, ?_⟩
  rw [← givenArguments_texts valid] at same
  exact List.map_injective_iff.mpr (fun _ _ => utf8_injective) same

theorem last_alone {becomes : Text → List Text} {text : Text} {tail : List Text}
    (same : becomes text ++ tail = text :: tail) : becomes text = [text] :=
  @List.append_cancel_right _ _ tail [text] same

-- A text before the mark cannot become what is missing after it.
theorem both_alone {becomes : Text → List Text} {mark first last : Text} {tail : List Text}
    (fixed : becomes mark = [mark])
    (same : becomes first ++ mark :: (becomes last ++ tail) = first :: mark :: last :: tail) :
    becomes first = [first] ∧ becomes last = [last] := by
  cases starts : becomes first with
  | nil =>
      rw [starts] at same
      have mistaken : mark = first := (List.cons.inj same).1
      rw [mistaken, starts] at fixed
      cases fixed
  | cons word more =>
      rw [starts, List.cons_append] at same
      obtain ⟨rfl, rest⟩ := List.cons.inj same
      cases more with
      | nil => exact ⟨rfl, last_alone (List.cons.inj rest).2⟩
      | cons other others =>
          rw [List.cons_append] at rest
          obtain ⟨_, later⟩ := List.cons.inj rest
          have sizes := congrArg List.length later
          cases others with
          | nil =>
              obtain ⟨mistaken, ends⟩ := List.cons.inj later
              have gone : becomes last = [] := by simpa using ends
              rw [mistaken, gone] at fixed
              cases fixed
          | cons another further =>
              simp only [List.length_append, List.length_cons] at sizes
              omega

-- In the command only the texts that were chosen can stand for something else.
theorem chosen_alone {options : GatewayServiceOptions} {becomes : Text → List Text}
    (fixed : ∀ text ∈ fixedTexts, becomes text = [text])
    (same : (runTexts options).flatMap becomes = runTexts options) :
    ∀ text ∈ chosenArguments options, becomes text = [text] := by
  have label := fixed "--config".toList (by decide)
  have profile := fixed "--profile".toList (by decide)
  have gateway := fixed "gateway".toList (by decide)
  have run := fixed "run".toList (by decide)
  unfold runTexts gatewayRunArguments at same
  unfold chosenArguments
  cases config : options.configPath with
  | none =>
      rw [config] at same
      simp only [List.nil_append, List.map_cons, List.map_nil, List.flatMap_cons, List.flatMap_nil,
        profile, gateway, run] at same
      have alone := last_alone (List.cons.inj same).2
      simpa using alone
  | some path =>
      rw [config] at same
      simp only [List.cons_append, List.nil_append, List.map_cons, List.map_nil, List.flatMap_cons,
        List.flatMap_nil, label, profile, gateway, run] at same
      obtain ⟨first, last⟩ := both_alone profile (List.cons.inj same).2
      simp [first, last]

-- A host that ends lines at every character it may.
def breaking (c : Char) : Bool := c = '\r' || c = '\x00'

theorem breaking_endings : ∀ c, breaking c = true → c = '\r' ∨ c = '\x00' := by
  simp [breaking]

theorem written_paired (executable : PathBytes) (options : GatewayServiceOptions) :
    Paired (renderSystemdUnit executable (gatewayRunArguments options) options.environment
      options.scope).toList := by
  rw [renderSystemdUnit_lines]
  exact SystemdUnits.paired_written (unitLines_paired _ _ _)

theorem unit_lines {executable : PathBytes} {options : GatewayServiceOptions}
    (accepted : Accepted executable options)
    (told : SaysWhatWasAsked options (renderSystemdUnit executable (gatewayRunArguments options)
      options.environment options.scope) .linuxSystemd) :
    (∀ path ∈ paths options, (decode path).isSome = true) ∧
      ∀ text ∈ commandTexts options, '\n' ∉ text ∧ '\r' ∉ text ∧ '\x00' ∉ text := by
  obtain ⟨found, given, each⟩ := told
  have same : found = executable := by simpa [accepted.given] using given.symm
  subst same
  obtain ⟨service, parsed, _, _, command, only, path, arguments⟩ :=
    each (SystemdUnits.bare breaking breaking_endings)
  obtain ⟨valid, words⟩ := given_texts arguments
  obtain ⟨decoded, shown⟩ := decode_given path
  have within := SystemdUnits.read_whole (written_paired found options) parsed command
    (by simp [only])
  have absent {text : Text} (inside : SystemdUnits.Within
      (fun c => (SystemdUnits.bare breaking breaking_endings).ends c = false) text) :
      '\n' ∉ text ∧ '\r' ∉ text ∧ '\x00' ∉ text := by
    refine ⟨fun member => ?_, fun member => ?_, fun member => ?_⟩
    all_goals exact absurd (inside _ member) (by decide)
  constructor
  · intro file member
    rcases List.mem_append.mp member with first | last
    · simp only [accepted.given, Option.toList_some, List.mem_singleton] at first
      exact first ▸ decoded
    · exact valid file (Option.mem_toList.mp last)
  · intro text member
    rcases List.mem_append.mp member with first | chosen
    · simp only [executableTexts, accepted.given, Option.toList_some, List.map_cons, List.map_nil,
        List.mem_singleton] at first
      rw [first, shown]
      exact absent within.path
    · apply absent
      apply within.arguments
      rw [words]
      exact chosen_runs text chosen

-- A host on which every letter is a specifier that stands for nothing.
def wiping : Host where
  endsLine _ := false
  specifier := SystemdUnits.emptying
  manager _ := none
  endings _ wrong := absurd wrong (by decide)
  letters c known := by
    by_contra other
    have unknown : SystemdUnits.emptying c = none := if_neg other
    rw [unknown] at known
    cases known

theorem unit_safe {executable : PathBytes} {options : GatewayServiceOptions}
    (accepted : Accepted executable options)
    (told : SaysWhatWasAsked options (renderSystemdUnit executable (gatewayRunArguments options)
      options.environment options.scope) .linuxSystemd) : UnitSafe options := by
  obtain ⟨valid, lines⟩ := unit_lines accepted told
  obtain ⟨found, given, each⟩ := told
  have same : found = executable := by simpa [accepted.given] using given.symm
  subst same
  have decoded := valid found (by simp [paths, accepted.given])
  -- What every host reads, and that it is what was given.
  have reads (host : Host) : expand host.specifier (display found).toList = (display found).toList ∧
      (environmentTexts options.environment).map (fun row => (row.1, expand host.specifier row.2)) =
        environmentTexts options.environment ∧
      ((runTexts options).map (expand host.specifier)).flatMap
        (substitute (known host.manager (environmentTexts options.environment))) =
          runTexts options := by
    obtain ⟨service, parsed, _, environs, command, only, path, arguments⟩ := each host
    rw [unit_read accepted decoded lines host] at parsed
    cases parsed
    obtain rfl := (List.cons.inj only).1
    have values : (environmentTexts options.environment).map (fun row =>
        (row.1, expand host.specifier row.2)) = environmentTexts options.environment := environs
    have ran := (given_texts arguments).2
    rw [runsAs, values] at ran
    exact ⟨utf8_injective (path.trans (display_decoded decoded).symm), values, ran⟩
  obtain ⟨named, values, _⟩ := reads wiping
  refine ⟨lines, ?_, ?_⟩
  · intro text member
    rcases List.mem_append.mp member with first | value
    · simp only [executableTexts, accepted.given, Option.toList_some, List.map_cons, List.map_nil,
        List.mem_singleton] at first
      exact first ▸ SystemdUnits.expand_emptied named
    · obtain ⟨row, listed, rfl⟩ := List.mem_map.mp value
      have kept := List.map_inj_left.mp (values.trans (List.map_id _).symm)
        (row.1.toList, row.2.toList) (List.mem_map_of_mem listed)
      exact SystemdUnits.expand_emptied (Prod.mk.inj kept).2
  · intro text chosen host
    have fixed : ∀ text ∈ fixedTexts, substitute
        (known host.manager (environmentTexts options.environment))
          (expand host.specifier text) = [text] := fun text member => fixed_kept text member host
    have ran := (reads host).2.2
    rw [List.flatMap_map] at ran
    exact chosen_alone fixed ran text chosen

/-! The property list. -/

theorem lineFeeds_kept {text : Text} : lineFeeds text = text ↔ '\r' ∉ text := by
  constructor
  · intro same member
    rw [← same] at member
    exact PropertyLists.lineFeedsFrom_absent false member
  · exact PropertyLists.lineFeeds_plain

theorem isNameChar_xml {c : Char} (named : isNameChar c = true) : isXmlChar c = true := by
  have bounds : 0x20 ≤ c.toNat ∧ c.toNat ≤ 0xD7FF := by
    simp only [isNameChar, RustText.isAsciiAlphanumeric, RustText.isAsciiDigit,
      RustText.isAsciiLowercase, RustText.isAsciiUppercase, Bool.or_eq_true, Bool.and_eq_true,
      decide_eq_true_eq] at named
    rcases named with rfl | (digit | lower) | upper
    · decide
    · omega
    · omega
    · omega
  simp [isXmlChar, bounds.1, bounds.2]

theorem rows_fed {executable : PathBytes} {options : GatewayServiceOptions}
    (accepted : Accepted executable options) :
    (environmentTexts options.environment).map bothFed = environmentTexts options.environment := by
  have kept : ∀ row ∈ environmentTexts options.environment, bothFed row = id row := by
    intro row member
    obtain ⟨given, listed, rfl⟩ := List.mem_map.mp member
    have name : lineFeeds given.1.toList = given.1.toList :=
      lineFeeds_kept.mpr fun inside =>
        (isNameChar_plain (accepted.names given listed _ inside)).2.1 rfl
    have value : lineFeeds given.2.toList = given.2.toList :=
      lineFeeds_kept.mpr (accepted.values given listed).2.2
    rw [bothFed, name, value]
    rfl
  rw [List.map_congr_left kept, List.map_id]

theorem plist_chars {executable : PathBytes} {options : GatewayServiceOptions} {logDir : String}
    (accepted : Accepted executable options)
    (logs : launchdLogDir options.scope options.environment = .ok logDir) :
    AllXml ((display executable).toList :: runTexts options) (environmentTexts options.environment)
        (stdoutPath logDir).toList (stderrPath logDir).toList ↔
      ∀ text ∈ commandTexts options ++ valueTexts options, text.all isXmlChar = true := by
  constructor
  · intro all text member
    rcases List.mem_append.mp member with command | value
    · rcases List.mem_append.mp command with first | chosen
      · simp only [executableTexts, accepted.given, Option.toList_some, List.map_cons, List.map_nil,
          List.mem_singleton] at first
        exact all.words text (first ▸ List.mem_cons_self)
      · exact all.words text (List.mem_cons_of_mem _ (chosen_runs text chosen))
    · obtain ⟨row, listed, rfl⟩ := List.mem_map.mp value
      exact all.values _ (List.mem_map_of_mem listed)
  · intro each
    have values : ∀ row ∈ options.environment.rows, row.2.toList.all isXmlChar = true :=
      fun row member => each _ (List.mem_append_right _ (List.mem_map_of_mem member))
    have directory := ServicePlists.logs_chars logs values
    constructor
    · intro text member
      rcases List.mem_cons.mp member with rfl | argument
      · apply each
        simp [commandTexts, executableTexts, accepted.given]
      · rcases runTexts_cases text argument with fixed | chosen
        · exact PropertyLists.plain_chars (fixedTexts_plain text fixed).2.2.2
        · exact each text (List.mem_append_left _ (List.mem_append_right _ chosen))
    · intro row member
      obtain ⟨given, listed, rfl⟩ := List.mem_map.mp member
      exact List.all_eq_true.mpr fun c inside =>
        isNameChar_xml (accepted.names given listed c inside)
    · intro row member
      obtain ⟨given, listed, rfl⟩ := List.mem_map.mp member
      exact values given listed
    · exact ServicePlists.joinAll_chars directory (by decide)
    · exact ServicePlists.joinAll_chars directory (by decide)

theorem plistRows_words (words : List Text) (rows : List (Text × Text)) (output failure : Text) :
    (plistRows words rows output failure).lookup "ProgramArguments".toList =
      some (.array (words.map .string)) := rfl

theorem plistRows_environment (words : List Text) (rows : List (Text × Text))
    (output failure : Text) :
    (plistRows words rows output failure).lookup "EnvironmentVariables".toList =
      if rows = [] then none else some (.dict (rows.map fun row => (row.1, .string row.2))) := by
  unfold plistRows
  by_cases empty : rows = []
  · rw [if_pos empty, if_pos empty]
    rfl
  · rw [if_neg empty, if_neg empty]
    rfl

theorem plistRows_keys (words : List Text) (environment : Environment) (output failure : Text) :
    (plistRows words (environmentTexts environment) output failure).map Prod.fst =
      plistKeys environment := by
  unfold plistRows plistKeys
  by_cases empty : environment.rows = []
  · have none : environmentTexts environment = [] := by rw [environmentTexts, empty]; rfl
    rw [if_pos empty, if_pos none]
    rfl
  · have some : environmentTexts environment ≠ [] := by simpa [environmentTexts] using empty
    rw [if_neg empty, if_neg some]
    rfl

theorem plist_read {executable : PathBytes} {options : GatewayServiceOptions} {file : String}
    (accepted : Accepted executable options)
    (made : renderLaunchdPlist executable (gatewayRunArguments options) options.environment
      options.scope = .ok file) :
    ((∀ text ∈ commandTexts options ++ valueTexts options, text.all isXmlChar = true) →
      ∃ output failure, PropertyLists.read file.toList = some (.dict (plistRows
        (((display executable).toList :: runTexts options).map lineFeeds)
        (environmentTexts options.environment) output failure))) ∧
    ((PropertyLists.read file.toList).isSome = true →
      ∀ text ∈ commandTexts options ++ valueTexts options, text.all isXmlChar = true) := by
  obtain ⟨logDir, logs, written⟩ := ServicePlists.renderLaunchdPlist_lines made
  have read := ServicePlists.read_plist ((display executable).toList :: runTexts options)
    (environmentTexts options.environment) (stdoutPath logDir).toList (stderrPath logDir).toList
  have chars := ServicePlists.plistPieces_chars ((display executable).toList :: runTexts options)
    (environmentTexts options.environment) (stdoutPath logDir).toList (stderrPath logDir).toList
  rw [rows_fed accepted] at read
  rw [plist_chars accepted logs] at chars
  have shape : file.toList = (plistPieces ((display executable).toList :: runTexts options)
      (environmentTexts options.environment) (stdoutPath logDir).toList
        (stderrPath logDir).toList).flatMap PropertyLists.Piece.written := written
  rw [← shape] at read
  constructor
  · intro each
    rw [if_pos (chars.mpr each)] at read
    exact ⟨_, _, read⟩
  · intro present
    by_contra other
    rw [if_neg fun all => other (chars.mp all)] at read
    rw [read] at present
    cases present

theorem plist_says {executable : PathBytes} {options : GatewayServiceOptions} {file : String}
    (accepted : Accepted executable options)
    (made : renderLaunchdPlist executable (gatewayRunArguments options) options.environment
      options.scope = .ok file)
    (valid : ∀ path ∈ paths options, (decode path).isSome = true) (safe : PlistSafe options) :
    SaysWhatWasAsked options file .macosLaunchd := by
  obtain ⟨output, failure, read⟩ := (plist_read accepted made).1 safe.characters
  have present : executable ∈ paths options := by simp [paths, accepted.given]
  have kept : ∀ text ∈ (display executable).toList :: runTexts options,
      lineFeeds text = id text := by
    intro text member
    apply lineFeeds_kept.mpr
    rcases List.mem_cons.mp member with rfl | argument
    · apply safe.returns
      simp [commandTexts, executableTexts, accepted.given]
    · rcases runTexts_cases text argument with fixed | chosen
      · exact PropertyLists.plain_absent (fixedTexts_plain text fixed).2.2.2
      · exact safe.returns text (List.mem_append_right _ chosen)
  rw [List.map_congr_left kept, List.map_id] at read
  refine ⟨executable, accepted.given, _, read, plistRows_keys _ _ _ _, ?_, ?_⟩
  · refine ⟨(display executable).toList :: runTexts options, ?_, plistRows_words _ _ _ _⟩
    have arguments := givenArguments_texts fun path given =>
      valid path (List.mem_append_right _ (Option.mem_toList.mpr given))
    rw [List.map_cons, display_decoded (valid executable present), arguments]
  · rw [plistRows_environment]
    by_cases empty : options.environment.rows = []
    · have none : environmentTexts options.environment = [] := by rw [environmentTexts, empty]; rfl
      rw [if_pos empty, if_pos none]
    · have some : environmentTexts options.environment ≠ [] := by
        simpa [environmentTexts] using empty
      rw [if_neg empty, if_neg some]

theorem plist_safe {executable : PathBytes} {options : GatewayServiceOptions} {file : String}
    (accepted : Accepted executable options)
    (made : renderLaunchdPlist executable (gatewayRunArguments options) options.environment
      options.scope = .ok file)
    (told : SaysWhatWasAsked options file .macosLaunchd) :
    (∀ path ∈ paths options, (decode path).isSome = true) ∧ PlistSafe options := by
  obtain ⟨found, given, rows, parsed, _, ⟨words, encoded, listed⟩, _⟩ := told
  have same : found = executable := by simpa [accepted.given] using given.symm
  subst same
  have characters := (plist_read accepted made).2 (by rw [parsed]; rfl)
  obtain ⟨output, failure, read⟩ := (plist_read accepted made).1 characters
  rw [parsed] at read
  cases read
  rw [plistRows_words] at listed
  have strings := Value.array.inj (Option.some.inj listed)
  have same : ((display found).toList :: runTexts options).map lineFeeds = words :=
    List.map_injective_iff.mpr (fun _ _ texts => Value.string.inj texts) strings
  subst same
  obtain ⟨first, rest⟩ := List.cons.inj encoded
  obtain ⟨decoded, shown⟩ := decode_given first
  obtain ⟨valid, arguments⟩ := given_texts rest
  refine ⟨?_, ?_, characters⟩
  · intro path member
    rcases List.mem_append.mp member with executable | config
    · simp only [accepted.given, Option.toList_some, List.mem_singleton] at executable
      exact executable ▸ decoded
    · exact valid path (Option.mem_toList.mp config)
  · intro text member
    apply lineFeeds_kept.mp
    rcases List.mem_append.mp member with executable | chosen
    · simp only [executableTexts, accepted.given, Option.toList_some, List.map_cons, List.map_nil,
        List.mem_singleton] at executable
      rw [executable]
      exact shown.symm
    · exact List.map_inj_left.mp (arguments.trans (List.map_id _).symm) text
        (chosen_runs text chosen)

/-! Plans. -/

theorem systemd_planned {isFile : PathBytes → Bool} {options : GatewayServiceOptions}
    {result : GatewayServiceResult}
    (planned : buildGatewayServicePlan isFile options .linuxSystemd = .ok result) :
    ∃ executable, Accepted executable options ∧ result.serviceFile = renderSystemdUnit executable
      (gatewayRunArguments options) options.environment options.scope := by
  obtain ⟨executable, checked, rest⟩ := except_bind_returned planned
  obtain ⟨servicePath, _, made⟩ := except_bind_returned rest
  cases made
  exact ⟨executable, validateOptions_accepts checked, rfl⟩

theorem launchd_planned {isFile : PathBytes → Bool} {options : GatewayServiceOptions}
    {result : GatewayServiceResult}
    (planned : buildGatewayServicePlan isFile options .macosLaunchd = .ok result) :
    ∃ executable, Accepted executable options ∧ renderLaunchdPlist executable
      (gatewayRunArguments options) options.environment options.scope = .ok result.serviceFile := by
  obtain ⟨executable, checked, rest⟩ := except_bind_returned planned
  obtain ⟨servicePath, _, more⟩ := except_bind_returned rest
  obtain ⟨file, rendered, made⟩ := except_bind_returned more
  cases made
  exact ⟨executable, validateOptions_accepts checked, rendered⟩

/-! Installs for chosen texts. -/

def optionsOf (executable profile : String) : GatewayServiceOptions where
  scope := .user
  dryRun := true
  executable := some (utf8 executable.toList)
  configPath := some (utf8 "/etc/missive.toml".toList)
  profile := profile
  environment := ⟨[("HOME", "/home/user")], List.pairwise_singleton _ _⟩

theorem optionsOf_texts (executable profile : String) :
    executableTexts (optionsOf executable profile) = [executable.toList] ∧
      chosenArguments (optionsOf executable profile) =
        ["/etc/missive.toml".toList, profile.toList] ∧
      ∀ path ∈ paths (optionsOf executable profile), (decode path).isSome = true := by
  have first := @decode_given (utf8 executable.toList) executable.toList rfl
  have last := @decode_given (utf8 "/etc/missive.toml".toList) "/etc/missive.toml".toList rfl
  refine ⟨?_, ?_, ?_⟩
  · simp only [executableTexts, optionsOf, Option.toList_some, List.map_cons, List.map_nil, first.2]
  · simp only [chosenArguments, optionsOf, Option.toList_some, List.map_cons, List.map_nil, last.2]
    rfl
  · intro path member
    simp only [paths, optionsOf, Option.toList_some, List.cons_append, List.nil_append,
      List.mem_cons, List.not_mem_nil, or_false] at member
    rcases member with rfl | rfl
    · exact first.1
    · exact last.1

def planOf (options : GatewayServiceOptions) (platform : GatewayServicePlatform) :
    Except Core.MissiveError GatewayServiceResult :=
  buildGatewayServicePlan (fun _ => false) options platform

theorem planOf_made {options : GatewayServiceOptions} {platform : GatewayServicePlatform}
    (made : (planOf options platform).isOk = true) :
    ∃ result, planOf options platform = .ok result := by
  cases plan : planOf options platform with
  | error error =>
      rw [plan] at made
      cases made
  | ok result => exact ⟨result, rfl⟩

/-! The result. -/

def ordinary : GatewayServiceOptions := optionsOf "/usr/local/bin/missive" "default"

def percentPath : GatewayServiceOptions := optionsOf "/opt/100%%/missive" "default"

def brokenProfile : GatewayServiceOptions := optionsOf "/opt/missive" "day\rnight"

end Missive.ServiceInstall
