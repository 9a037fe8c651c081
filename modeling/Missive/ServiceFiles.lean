import Missive.ByteLines
import Missive.Core
import Missive.FilePaths
import Missive.JsonRedaction
import Missive.TextReplacement

/-! What `missive gateway install` writes for the platform's supervisor: a systemd unit or a
launchd property list that runs `missive gateway run`. -/
namespace Missive.ServiceFiles

open RustText (Text)
open TextReplacement (replace)
open FilePaths (join)
open Core (MissiveError debug)

/-! Paths of the operating system are bytes. -/

abbrev PathBytes : Type := List UInt8

def isContinuation (byte : UInt8) : Bool := 0x80 ≤ byte && byte ≤ 0xBF

-- The second bytes that may stand after a first byte, and how long the sequence is.
def secondBytes (first : UInt8) : Option (UInt8 × UInt8 × Nat) :=
  if 0xC2 ≤ first ∧ first ≤ 0xDF then some (0x80, 0xBF, 2)
  else if first = 0xE0 then some (0xA0, 0xBF, 3)
  else if first = 0xED then some (0x80, 0x9F, 3)
  else if 0xE1 ≤ first ∧ first ≤ 0xEF then some (0x80, 0xBF, 3)
  else if first = 0xF0 then some (0x90, 0xBF, 4)
  else if 0xF1 ≤ first ∧ first ≤ 0xF3 then some (0x80, 0xBF, 4)
  else if first = 0xF4 then some (0x80, 0x8F, 4)
  else none

-- How many bytes of an ill-formed sequence one replacement character stands for.
def brokenLength (first : UInt8) (rest : PathBytes) : Nat :=
  match secondBytes first, rest with
  | some (least, most, length), second :: later =>
      if least ≤ second ∧ second ≤ most then
        2 + min (later.takeWhile isContinuation).length (length - 3)
      else 1
  | _, _ => 1

-- The first argument counts what is left of a sequence that has been decoded.
def lossyFrom : Nat → PathBytes → Text
  | _, [] => []
  | skip + 1, _ :: rest => lossyFrom skip rest
  | 0, first :: rest =>
      match (first :: rest).toByteArray.utf8DecodeChar? 0 with
      | some c => c :: lossyFrom (c.utf8Size - 1) rest
      | none => '\uFFFD' :: lossyFrom (brokenLength first rest - 1) rest

-- `path.display().to_string()`
def display (path : PathBytes) : String :=
  match ByteLines.decode path with
  | some text => text
  | none => String.ofList (lossyFrom 0 path)

def isAbsolute (path : PathBytes) : Bool := path.head? = some 0x2F

/-! Options. -/

inductive GatewayServiceScope where
  | user
  | system
  deriving DecidableEq

inductive GatewayServicePlatform where
  | linuxSystemd
  | macosLaunchd
  deriving DecidableEq

-- A `BTreeMap<String, String>`.
structure Environment where
  rows : List (String × String)
  ordered : rows.Pairwise fun first last => first.1 < last.1

def environmentTexts (environment : Environment) : List (Text × Text) :=
  environment.rows.map fun row => (row.1.toList, row.2.toList)

def Environment.get (environment : Environment) (name : String) : Option String :=
  environment.rows.lookup name

-- The options of an install.
structure GatewayServiceOptions where
  scope : GatewayServiceScope
  dryRun : Bool
  executable : Option PathBytes
  configPath : Option PathBytes
  profile : String
  environment : Environment

/-! Checks. -/

def contains (text pattern : String) : Bool := (RustText.find text.toList pattern.toList).isSome

def isAsciiAlphabetic (c : Char) : Bool :=
  RustText.isAsciiLowercase c || RustText.isAsciiUppercase c

def validateEnvName (name : String) : Except MissiveError Unit :=
  match name.toList with
  | [] => .error (MissiveError.validation "service environment variable name cannot be empty")
  | first :: rest =>
      if !(first = '_' || isAsciiAlphabetic first) then .error (MissiveError.validation
        s!"service environment variable name {debug name} must start with a letter or underscore")
      else if !(rest.all fun c => c = '_' || RustText.isAsciiAlphanumeric c) then
        .error (MissiveError.validation
          s!"service environment variable name {debug name} must contain only ASCII letters, digits, and underscores")
      else .ok ()

def sensitiveWords : List String :=
  ["token", "secret", "password", "passwd", "credential", "authorization", "cookie", "api_key",
    "apikey", "private_key"]

def isSensitiveEnvName (name : String) : Bool :=
  sensitiveWords.any fun word => contains (String.ofList (RustText.lowercase name.toList)) word

def validateServiceEnvironment (name value : String) : Except MissiveError Unit := do
  validateEnvName name
  if isSensitiveEnvName name then .error ((MissiveError.validation
    s!"refusing to store sensitive-looking environment variable {debug name} in a service file"
    ).withHelp "Use config auth refs backed by env/keyring for A2A credentials; do not bake tokens, cookies, passwords, or API keys into service files.")
  else if '\x00' ∈ value.toList ∨ '\n' ∈ value.toList ∨ '\r' ∈ value.toList then
    .error ((MissiveError.validation
      s!"environment variable {debug name} contains unsupported control characters"
      ).withHelp "Use single-line UTF-8 environment values for service files.")
  else .ok ()

def requireSystemScopeStateEnvironment (environment : Environment) : Except MissiveError Unit :=
  match environment.get "MISSIVE_HOME" with
  | none => .error ((MissiveError.validation
      "--system gateway service installation requires MISSIVE_HOME in the generated environment"
      ).withHelp "Pass --env MISSIVE_HOME=/var/lib/missive (or another dedicated absolute runtime directory) so a system service does not accidentally write profile state under a user login directory or /root.")
  | some home =>
      if FilePaths.isAbsolute home.toList then .ok ()
      else .error ((MissiveError.validation
        "--system gateway service MISSIVE_HOME must be an absolute path"
        ).withHelp "Use a dedicated absolute directory such as /var/lib/missive.")

def validateExecutable (isFile : PathBytes → Bool) (options : GatewayServiceOptions) :
    Except MissiveError PathBytes :=
  match options.executable with
  | none => .error ((MissiveError.validation
      "gateway service install requires an executable path").withHelp
        "Pass --bin $(command -v missive), or let missive use the current executable path.")
  | some executable =>
      if !isAbsolute executable then .error ((MissiveError.validation
        s!"gateway service executable path {display executable} must be absolute").withHelp
          "Use an absolute path so the service manager does not depend on a login shell.")
      else if !options.dryRun && !isFile executable then .error ((MissiveError.validation
        s!"gateway service executable path {display executable} does not exist or is not a file"
        ).withHelp
          "Install the missive binary first or pass --bin with the installed path.")
      else .ok executable

def validateScope (options : GatewayServiceOptions) : Except MissiveError Unit :=
  if options.scope = .system then requireSystemScopeStateEnvironment options.environment
  else .ok ()

-- The checks of an install give the executable, which they require.
def validateOptions (isFile : PathBytes → Bool) (options : GatewayServiceOptions)
    (platform : GatewayServicePlatform) : Except MissiveError PathBytes := do
  if (JsonRedaction.trim options.profile.toList).isEmpty then
    .error (MissiveError.validation "gateway service profile cannot be empty")
  else
    let executable ← validateExecutable isFile options
    options.environment.rows.forM fun row => validateServiceEnvironment row.1 row.2
    validateScope options
    if options.scope = .system ∧ platform = .macosLaunchd ∧
        (options.environment.get "MISSIVE_HOME").isNone then
      .error ((MissiveError.validation
        "macOS system LaunchDaemon installation requires MISSIVE_HOME").withHelp
          "Pass --env MISSIVE_HOME=/var/lib/missive or use the default user LaunchAgent.")
    else .ok executable

/-! Where the files are. -/

def joinAll (base : String) (names : List String) : String :=
  String.ofList (names.foldl (fun path name => join path name.toList) base.toList)

def defaultSystemdUnit : String := "missive-gateway.service"

def defaultLaunchdLabel : String := "works.earendil.missive.gateway"

def systemdServicePath (scope : GatewayServiceScope) (environment : Environment) :
    Except MissiveError String :=
  match scope with
  | .system => .ok (joinAll "/etc/systemd/system" [defaultSystemdUnit])
  | .user =>
      match (environment.get "XDG_CONFIG_HOME").filter fun value => value ≠ "" with
      | some configHome => .ok (joinAll configHome ["systemd", "user", defaultSystemdUnit])
      | none =>
          match environment.get "HOME" with
          | none => .error ((MissiveError.validation
              "gateway service install could not determine HOME for systemd user unit path"
              ).withHelp "Set HOME or XDG_CONFIG_HOME, or use --system with an explicit MISSIVE_HOME.")
          | some home => .ok (joinAll home [".config", "systemd", "user", defaultSystemdUnit])

def launchdHome (purpose : String) (environment : Environment) : Except MissiveError String :=
  match environment.get "HOME" with
  | none => .error ((MissiveError.validation
      s!"gateway service install could not determine HOME for launchd {purpose}").withHelp
        "Set HOME or use --system with an explicit MISSIVE_HOME.")
  | some home => .ok home

def launchdPlistPath (scope : GatewayServiceScope) (environment : Environment) :
    Except MissiveError String :=
  match scope with
  | .system => .ok (joinAll "/Library/LaunchDaemons" [defaultLaunchdLabel ++ ".plist"])
  | .user => do
      let home ← launchdHome "user plist path" environment
      pure (joinAll home ["Library", "LaunchAgents", defaultLaunchdLabel ++ ".plist"])

def launchdLogDir (scope : GatewayServiceScope) (environment : Environment) :
    Except MissiveError String :=
  match scope with
  | .system => .ok "/var/log/missive"
  | .user => do
      let home ← launchdHome "logs" environment
      pure (joinAll home ["Library", "Logs", "missive"])

/-! The arguments and the two files. -/

def gatewayRunArguments (options : GatewayServiceOptions) : List String :=
  (match options.configPath with
    | some configPath => ["--config", display configPath]
    | none => []) ++ ["--profile", options.profile, "gateway", "run"]

def systemdQuote (value : String) : String :=
  "\"" ++ String.ofList
    (replace ['"'] ['\\', '"'] (replace ['\\'] ['\\', '\\'] value.toList)) ++ "\""

def wantedBy : GatewayServiceScope → String
  | .user => "default.target"
  | .system => "multi-user.target"

def renderSystemdUnit (executable : PathBytes) (arguments : List String)
    (environment : Environment) (scope : GatewayServiceScope) : String :=
  let execStart := " ".intercalate ((display executable :: arguments).map systemdQuote)
  String.join (
    ["[Unit]\n", "Description=missive gateway daemon\n",
      "Documentation=https://github.com/earendil-works/missive\n",
      "After=network-online.target\n", "Wants=network-online.target\n\n",
      "[Service]\n", "Type=simple\n", "ExecStart=" ++ execStart ++ "\n"] ++
    environment.rows.map (fun row =>
      "Environment=" ++ systemdQuote (row.1 ++ "=" ++ row.2) ++ "\n") ++
    ["Restart=on-failure\n", "RestartSec=5s\n\n",
      "[Install]\n", "WantedBy=" ++ wantedBy scope ++ "\n"])

def xmlReplacements : List (Char × String) :=
  [('&', "&amp;"), ('<', "&lt;"), ('>', "&gt;"), ('"', "&quot;"), ('\'', "&apos;")]

def xmlEscape (value : String) : String :=
  String.ofList (xmlReplacements.foldl (fun text entry => replace [entry.1] entry.2.toList text)
    value.toList)

def spaces (indent : Nat) : String := String.join (List.replicate indent "  ")

def plistString (indent : Nat) (value : String) : String :=
  spaces indent ++ "<string>" ++ xmlEscape value ++ "</string>\n"

def plistKeyString (indent : Nat) (key value : String) : String :=
  spaces indent ++ "<key>" ++ xmlEscape key ++ "</key>\n" ++ plistString indent value

def renderLaunchdPlist (executable : PathBytes) (arguments : List String)
    (environment : Environment) (scope : GatewayServiceScope) : Except MissiveError String := do
  let logDir ← launchdLogDir scope environment
  pure (String.join (
    ["<?xml version=\"1.0\" encoding=\"UTF-8\"?>\n",
      "<!DOCTYPE plist PUBLIC \"-//Apple//DTD PLIST 1.0//EN\" \"http://www.apple.com/DTDs/PropertyList-1.0.dtd\">\n",
      "<plist version=\"1.0\">\n", "<dict>\n", plistKeyString 1 "Label" defaultLaunchdLabel,
      "  <key>ProgramArguments</key>\n", "  <array>\n", plistString 2 (display executable)] ++
    arguments.map (plistString 2) ++ ["  </array>\n"] ++
    (if environment.rows = [] then []
      else ["  <key>EnvironmentVariables</key>\n", "  <dict>\n"] ++
        environment.rows.map (fun row => plistKeyString 2 row.1 row.2) ++ ["  </dict>\n"]) ++
    ["  <key>KeepAlive</key>\n", "  <true/>\n", "  <key>RunAtLoad</key>\n", "  <true/>\n",
      plistKeyString 1 "StandardOutPath" (joinAll logDir ["missive-gateway.stdout.log"]),
      plistKeyString 1 "StandardErrorPath" (joinAll logDir ["missive-gateway.stderr.log"]),
      "</dict>\n", "</plist>\n"]))

/-! Plans. -/

-- What the plan of an install says of the service.
structure GatewayServiceResult where
  servicePath : String
  serviceName : String
  executable : String
  arguments : List String
  environment : Environment
  serviceFile : String

def buildSystemdPlan (executable : PathBytes) (options : GatewayServiceOptions) :
    Except MissiveError GatewayServiceResult := do
  let servicePath ← systemdServicePath options.scope options.environment
  let arguments := gatewayRunArguments options
  pure ⟨servicePath, defaultSystemdUnit, display executable, arguments, options.environment,
    renderSystemdUnit executable arguments options.environment options.scope⟩

def buildLaunchdPlan (executable : PathBytes) (options : GatewayServiceOptions) :
    Except MissiveError GatewayServiceResult := do
  let servicePath ← launchdPlistPath options.scope options.environment
  let arguments := gatewayRunArguments options
  let serviceFile ← renderLaunchdPlist executable arguments options.environment options.scope
  pure ⟨servicePath, defaultLaunchdLabel, display executable, arguments, options.environment,
    serviceFile⟩

def buildGatewayServicePlan (isFile : PathBytes → Bool) (options : GatewayServiceOptions)
    (platform : GatewayServicePlatform) : Except MissiveError GatewayServiceResult := do
  let executable ← validateOptions isFile options platform
  match platform with
  | .linuxSystemd => buildSystemdPlan executable options
  | .macosLaunchd => buildLaunchdPlan executable options

end Missive.ServiceFiles
