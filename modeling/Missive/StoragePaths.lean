import Missive.Core
import Missive.Effects
import Missive.FilePaths
import Missive.JsonRedaction

/-! State paths. The database path and the lock directory of a profile are resolved from its name,
the configuration and the environment. The locks live in the profile's state directory; the
database lives there too, unless the configuration puts it elsewhere. -/
namespace Missive.StoragePaths

open RustText (Text)
open Missive.Core Effects FilePaths

/-! Configuration. -/

structure StorageConfig where
  databasePath : Option Text

structure ProfileConfig where
  storage : Option StorageConfig

structure MissiveConfig where
  storage : StorageConfig
  profiles : List (String × ProfileConfig)

def configIdentifierHelp : String :=
  "Use lowercase ASCII letters or digits, with '-', '_' or '.' only in the middle."

def identifierReason (value : String) : Option String :=
  shapeReason value 63 "lowercase ASCII letters, digits, '-', '_' or '.'" isNamedSeparator

def validateNamedConfigIdentifier (kind value : String) : Except MissiveError Unit :=
  match identifierReason value with
  | none => .ok ()
  | some reason => .error
      ((MissiveError.config s!"invalid {kind}: {reason}").withHelp configIdentifierHelp)

def MissiveConfig.profile (config : MissiveConfig) (name : String) :
    Except MissiveError ProfileConfig := do
  validateNamedConfigIdentifier "profile name" name
  match config.profiles.lookup name with
  | some profile => .ok profile
  | none => .error ((MissiveError.config s!"profile {debug name} is not defined").withHelp
      "Choose an existing [profiles.<name>] entry or update --profile.")

/-! Roots. -/

inductive StatePlatform where
  | linux
  | macOs
  | other

inductive StatePathSource where
  | missiveHome
  | xdg
  | platformFallback
  deriving DecidableEq

structure StatePathResolver where
  env : List (String × String)
  platform : StatePlatform

structure StateRoots where
  source : StatePathSource
  dataRoot : Text
  stateRoot : Text
  cacheRoot : Text

def StatePathResolver.envPath (resolver : StatePathResolver) (key : String) :
    Except MissiveError (Option Text) :=
  match resolver.env.lookup key with
  | none => .ok none
  | some value =>
      if (JsonRedaction.trim value.toList).isEmpty then
        .error ((MissiveError.config s!"{key} is set but empty").withHelp
          "Unset the variable or set it to an absolute directory path.")
      else if isAbsolute value.toList then .ok (some value.toList)
      else .error ((MissiveError.config s!"{key} must be an absolute directory path").withHelp
        "Use an absolute path so missive never writes runtime state into the source tree by accident.")

def StatePathResolver.homeDir (resolver : StatePathResolver) : Except MissiveError Text := do
  let home ← resolver.envPath "HOME"
  match home with
  | some home => .ok home
  | none => .error ((MissiveError.config "HOME is required when MISSIVE_HOME is not set").withHelp
      "Set MISSIVE_HOME to an absolute directory, or provide HOME for platform fallback state paths.")

-- `path.join(first).join(second)` and so on.
def descend (path : Text) (names : List String) : Text :=
  names.foldl (fun path name => join path name.toList) path

def StatePathResolver.resolveXdgRoots (resolver : StatePathResolver) :
    Except MissiveError StateRoots := do
  let home ← resolver.homeDir
  let dataHome ← resolver.envPath "XDG_DATA_HOME"
  let stateHome ← resolver.envPath "XDG_STATE_HOME"
  let cacheHome ← resolver.envPath "XDG_CACHE_HOME"
  .ok ⟨.xdg, descend (dataHome.getD (descend home [".local", "share"])) ["missive"],
    descend (stateHome.getD (descend home [".local", "state"])) ["missive"],
    descend (cacheHome.getD (descend home [".cache"])) ["missive"]⟩

def StatePathResolver.resolveMacosRoots (resolver : StatePathResolver) :
    Except MissiveError StateRoots :=
  if ["XDG_DATA_HOME", "XDG_STATE_HOME", "XDG_CACHE_HOME"].any fun key =>
      (resolver.env.lookup key).isSome then
    resolver.resolveXdgRoots
  else do
    let home ← resolver.homeDir
    let applicationSupport := descend home ["Library", "Application Support", "missive"]
    .ok ⟨.platformFallback, descend applicationSupport ["data"], descend applicationSupport ["state"],
      descend home ["Library", "Caches", "missive"]⟩

def StatePathResolver.resolveRoots (resolver : StatePathResolver) : Except MissiveError StateRoots := do
  let missiveHome ← resolver.envPath "MISSIVE_HOME"
  match missiveHome, resolver.platform with
  | some root, _ => .ok ⟨.missiveHome, descend root ["data"], descend root ["state"],
      descend root ["cache"]⟩
  | none, .linux | none, .other => resolver.resolveXdgRoots
  | none, .macOs => resolver.resolveMacosRoots

/-! Paths of a profile. -/

structure StatePaths where
  profile : String
  source : StatePathSource
  dataDir : Text
  stateDir : Text
  cacheDir : Text
  locksDir : Text
  databasePath : Text

inductive ProcessLockKind where
  | stateMutation
  | gateway

def ProcessLockKind.fileName : ProcessLockKind → String
  | .stateMutation => "state.lock"
  | .gateway => "gateway.lock"

def StatePaths.lockPath (paths : StatePaths) (kind : ProcessLockKind) : Text :=
  descend paths.locksDir [kind.fileName]

def StatePaths.new (profile : String) (source : StatePathSource)
    (dataDir stateDir cacheDir databasePath : Text) : StatePaths :=
  ⟨profile, source, dataDir, stateDir, cacheDir, descend stateDir ["locks"], databasePath⟩

def validateProfileSegment (profile : String) : Except MissiveError Unit :=
  match identifierReason profile with
  | none => .ok ()
  | some _ => .error ((MissiveError.config
      s!"profile {debug profile} cannot be used as a state path segment").withHelp
      "Use a validated missive profile name such as default, ci, or local-dev.")

def validateRelativeDatabasePath (path : Text) : Except MissiveError Unit :=
  if (components path).any fun part => part == .parentDir || part == .rootDir then
    .error ((MissiveError.config
      s!"storage.database_path {debug (String.ofList path)} cannot escape the profile state directory").withHelp
      "Use a simple relative filename, a nested relative path without '..', or an absolute path.")
  else .ok ()

def StatePathResolver.resolveDatabasePath (resolver : StatePathResolver) (path stateDir : Text) :
    Except MissiveError Text :=
  if isAbsolute path then .ok path
  else
    match path with
    | ['~'] => resolver.homeDir
    | '~' :: '/' :: stripped => do
        let home ← resolver.homeDir
        .ok (join home stripped)
    | '~' :: _ => .error ((MissiveError.config
        s!"storage.database_path {debug (String.ofList path)} uses unsupported home expansion syntax").withHelp
        "Use ~/path for the current home directory, an absolute path, or a path relative to the profile state directory.")
    | path => do
        validateRelativeDatabasePath path
        .ok (join stateDir path)

def StatePathResolver.databasePath (resolver : StatePathResolver) (storage : StorageConfig)
    (stateDir : Text) : Except MissiveError Text :=
  match storage.databasePath with
  | some path => resolver.resolveDatabasePath path stateDir
  | none => .ok (descend stateDir ["missive.sqlite3"])

def StatePathResolver.resolveStorage (resolver : StatePathResolver) (profile : String)
    (storage : StorageConfig) : Except MissiveError StatePaths := do
  validateProfileSegment profile
  let roots ← resolver.resolveRoots
  let stateDir := descend roots.stateRoot ["profiles", profile]
  let databasePath ← resolver.databasePath storage stateDir
  .ok (.new profile roots.source (descend roots.dataRoot ["profiles", profile]) stateDir
    (descend roots.cacheRoot ["profiles", profile]) databasePath)

def storageOf (config : MissiveConfig) (profile : ProfileConfig) : StorageConfig :=
  profile.storage.getD config.storage

def StatePathResolver.resolveConfig (resolver : StatePathResolver) (config : MissiveConfig)
    (profile : String) : Except MissiveError StatePaths := do
  let profileConfig ← config.profile profile
  resolver.resolveStorage profile (storageOf config profileConfig)

/-! Every directory resolved is absolute. -/

theorem envPath_absolute {resolver : StatePathResolver} {key : String} {path : Text}
    (found : resolver.envPath key = .ok (some path)) : isAbsolute path = true := by
  unfold StatePathResolver.envPath at found
  split at found
  · cases found
  · split at found
    · cases found
    · split at found
      · cases found
        assumption
      · cases found

theorem homeDir_absolute {resolver : StatePathResolver} {home : Text}
    (found : resolver.homeDir = .ok home) : isAbsolute home = true := by
  obtain ⟨path, known, shown⟩ := except_bind_returned found
  cases path with
  | none => cases shown
  | some path =>
      cases shown
      exact envPath_absolute known

theorem descend_absolute {path : Text} (absolute : isAbsolute path = true) (names : List String) :
    isAbsolute (descend path names) = true := by
  induction names generalizing path with
  | nil => exact absolute
  | cons name rest ih => exact ih (isAbsolute_join absolute)

theorem resolveXdgRoots_absolute {resolver : StatePathResolver} {roots : StateRoots}
    (found : resolver.resolveXdgRoots = .ok roots) : isAbsolute roots.stateRoot = true := by
  obtain ⟨home, homed, rest⟩ := except_bind_returned found
  obtain ⟨dataHome, _, rest⟩ := except_bind_returned rest
  obtain ⟨stateHome, stated, rest⟩ := except_bind_returned rest
  obtain ⟨cacheHome, _, shown⟩ := except_bind_returned rest
  cases shown
  apply descend_absolute
  cases stateHome with
  | none => exact descend_absolute (homeDir_absolute homed) _
  | some path => exact envPath_absolute stated

theorem resolveRoots_absolute {resolver : StatePathResolver} {roots : StateRoots}
    (found : resolver.resolveRoots = .ok roots) : isAbsolute roots.stateRoot = true := by
  obtain ⟨missiveHome, known, chosen⟩ := except_bind_returned found
  split at chosen
  · cases chosen
    exact descend_absolute (envPath_absolute known) _
  · exact resolveXdgRoots_absolute chosen
  · exact resolveXdgRoots_absolute chosen
  · unfold StatePathResolver.resolveMacosRoots at chosen
    split at chosen
    · exact resolveXdgRoots_absolute chosen
    · obtain ⟨home, homed, shown⟩ := except_bind_returned chosen
      cases shown
      exact descend_absolute (descend_absolute (homeDir_absolute homed) _) _

/-! A name of one component. -/

def Plain (name : String) : Prop :=
  name.toList ≠ [] ∧ '/' ∉ name.toList ∧ name.toList ≠ ['.'] ∧ name.toList ≠ ['.', '.']

instance (name : String) : Decidable (Plain name) := by
  unfold Plain
  infer_instance

theorem plain_relative {name : String} (plain : Plain name) : isAbsolute name.toList = false := by
  obtain ⟨_, solid, _⟩ := plain
  cases shown : name.toList with
  | nil => rfl
  | cons c rest =>
      rw [shown] at solid
      have other : c ≠ '/' := fun same => solid (same ▸ List.mem_cons_self)
      simp [isAbsolute, other]

theorem descend_components {path : Text} (absolute : isAbsolute path = true) (names : List String)
    (plain : ∀ name ∈ names, Plain name) :
    components (descend path names) =
      components path ++ names.map fun name => .normal name.toList := by
  induction names generalizing path with
  | nil => exact (List.append_nil _).symm
  | cons name rest ih =>
      have here : Plain name := plain name List.mem_cons_self
      have relative := plain_relative here
      obtain ⟨filled, solid, one, two⟩ := here
      have onward := @ih (join path name.toList) (isAbsolute_join absolute)
        (fun later member => plain later (List.mem_cons_of_mem name member))
      have step : components (join path name.toList) = components path ++ [.normal name.toList] := by
        rw [components_join absolute relative, parts_name filled solid one two]
      rw [show descend path (name :: rest) = descend (join path name.toList) rest from rfl, onward,
        step, List.append_assoc]
      rfl

theorem profile_plain {profile : String} {result : Unit}
    (valid : validateProfileSegment profile = .ok result) : Plain profile := by
  unfold validateProfileSegment identifierReason shapeReason at valid
  split at valid
  · rename_i passed
    split at passed
    · cases passed
    · split at passed
      · cases passed
      · split at passed
        · cases passed
        · rename_i started
          split at passed
          · cases passed
          · split at passed
            · rename_i allowed
              refine ⟨?_, ?_, ?_, ?_⟩
              · intro empty
                simp [empty] at started
              · intro member
                exact absurd (List.all_eq_true.mp allowed '/' member) (by decide)
              · intro dot
                simp [dot, isLowerAlphanumeric, RustText.isAsciiLowercase, RustText.isAsciiDigit]
                  at started
              · intro dots
                simp [dots, isLowerAlphanumeric, RustText.isAsciiLowercase, RustText.isAsciiDigit]
                  at started
            · cases passed
  · cases valid

/-! Two resolutions. -/

/-- Paths, with the environment, configuration and profile they were resolved from. -/
structure Resolution where
  resolver : StatePathResolver
  config : MissiveConfig
  profile : String
  paths : StatePaths
  resolved : resolver.resolveConfig config profile = .ok paths

/-- The database path that is configured for the profile. -/
def Resolution.override (resolution : Resolution) : Option Text :=
  match resolution.config.profile resolution.profile with
  | .ok profile => (storageOf resolution.config profile).databasePath
  | .error _ => none

-- Neither absolute nor relative to a home directory.
def Inside (path : Text) : Prop := isAbsolute path = false ∧ path.head? ≠ some '~'

/-- Where the directory of the profile lies, and where the database lies if it is not put
elsewhere. -/
structure Placed (resolution : Resolution) (roots : StateRoots) : Prop where
  rooted : resolution.resolver.resolveRoots = .ok roots
  stateDir : components resolution.paths.stateDir = components roots.stateRoot ++
    [.normal "profiles".toList, .normal resolution.profile.toList]
  absolute : isAbsolute resolution.paths.stateDir = true
  locksDir : resolution.paths.locksDir = descend resolution.paths.stateDir ["locks"]
  default : resolution.override = none →
    resolution.paths.databasePath = descend resolution.paths.stateDir ["missive.sqlite3"]
  inside : ∀ path, resolution.override = some path → Inside path →
    resolution.paths.databasePath = join resolution.paths.stateDir path

theorem resolveDatabasePath_inside {resolver : StatePathResolver} {path stateDir database : Text}
    (inside : Inside path) (found : resolver.resolveDatabasePath path stateDir = .ok database) :
    database = join stateDir path := by
  obtain ⟨relative, homeless⟩ := inside
  unfold StatePathResolver.resolveDatabasePath at found
  rw [relative] at found
  simp only [Bool.false_eq_true, if_false] at found
  split at found
  · exact absurd rfl homeless
  · exact absurd rfl homeless
  · exact absurd rfl homeless
  · obtain ⟨_, _, shown⟩ := except_bind_returned found
    cases shown
    rfl

theorem resolution_placed (resolution : Resolution) : ∃ roots, Placed resolution roots := by
  obtain ⟨resolver, config, profile, paths, resolved⟩ := resolution
  obtain ⟨profileConfig, known, stored⟩ := except_bind_returned resolved
  obtain ⟨_, valid, rest⟩ := except_bind_returned stored
  obtain ⟨roots, rooted, rest⟩ := except_bind_returned rest
  obtain ⟨database, chosen, shown⟩ := except_bind_returned rest
  cases shown
  have absolute := resolveRoots_absolute rooted
  have plain : ∀ name ∈ ["profiles", profile], Plain name := by
    intro name member
    rcases List.mem_cons.mp member with rfl | last
    · decide
    · rw [List.mem_singleton.mp last]
      exact profile_plain valid
  have override : Resolution.override ⟨resolver, config, profile, _, resolved⟩ =
      (storageOf config profileConfig).databasePath := by
    simp only [Resolution.override, known]
  refine ⟨roots, rooted, ?_, ?_, rfl, ?_, ?_⟩
  · exact descend_components absolute _ plain
  · exact descend_absolute absolute _
  · intro none_
    rw [override] at none_
    simp only [StatePathResolver.databasePath, none_] at chosen
    cases chosen
    rfl
  · intro path some_ inside
    rw [override] at some_
    simp only [StatePathResolver.databasePath, some_] at chosen
    exact resolveDatabasePath_inside inside chosen

/-- The database lies under the state directory of its profile. -/
theorem placed_database {resolution : Resolution} {roots : StateRoots}
    (placed : Placed resolution roots) (inside : ∀ path ∈ resolution.override, Inside path) :
    ∃ below, components resolution.paths.databasePath =
      components resolution.paths.stateDir ++ below := by
  cases shown : resolution.override with
  | none =>
      rw [placed.default shown]
      exact ⟨_, descend_components placed.absolute _ (by decide)⟩
  | some path =>
      have within := inside path shown
      rw [placed.inside path shown within]
      exact ⟨_, components_join placed.absolute within.1⟩

theorem placed_lock {resolution : Resolution} {roots : StateRoots} (placed : Placed resolution roots)
    (kind : ProcessLockKind) :
    components (resolution.paths.lockPath kind) = components resolution.paths.stateDir ++
      [.normal "locks".toList, .normal kind.fileName.toList] := by
  have shown : resolution.paths.lockPath kind =
      descend resolution.paths.stateDir ["locks", kind.fileName] := by
    unfold StatePaths.lockPath
    rw [placed.locksDir]
    rfl
  rw [shown]
  apply descend_components placed.absolute
  cases kind <;> decide

theorem lock_iff_directory (kind : ProcessLockKind) (first last : Resolution) :
    SamePath (first.paths.lockPath kind) (last.paths.lockPath kind) ↔
      SamePath first.paths.stateDir last.paths.stateDir := by
  obtain ⟨_, left⟩ := resolution_placed first
  obtain ⟨_, right⟩ := resolution_placed last
  unfold SamePath
  rw [placed_lock left, placed_lock right]
  exact List.append_left_inj _

/-- Two resolutions share the lock of state mutations exactly if they share the state directory.
They do if they share the database and no database path is configured, or if they share it in one
environment and every configured path is relative to the state directory. -/
theorem shared_database_shares_lock (first last : Resolution)
    (shared : SamePath first.paths.databasePath last.paths.databasePath) :
    (SamePath (first.paths.lockPath .stateMutation) (last.paths.lockPath .stateMutation) ↔
      SamePath first.paths.stateDir last.paths.stateDir) ∧
    (first.override = none → last.override = none →
      SamePath (first.paths.lockPath .stateMutation) (last.paths.lockPath .stateMutation)) ∧
    (first.resolver = last.resolver → (∀ path ∈ first.override, Inside path) →
      (∀ path ∈ last.override, Inside path) →
      SamePath (first.paths.lockPath .stateMutation) (last.paths.lockPath .stateMutation)) := by
  obtain ⟨firstRoots, left⟩ := resolution_placed first
  obtain ⟨lastRoots, right⟩ := resolution_placed last
  refine ⟨lock_iff_directory _ first last, ?_, ?_⟩
  · intro leftDefault rightDefault
    apply (lock_iff_directory _ first last).mpr
    unfold SamePath at shared
    rw [left.default leftDefault, right.default rightDefault,
      descend_components left.absolute _ (by decide),
      descend_components right.absolute _ (by decide)] at shared
    exact List.append_cancel_right shared
  · intro same leftInside rightInside
    apply (lock_iff_directory _ first last).mpr
    obtain ⟨leftBelow, leftDatabase⟩ := placed_database left leftInside
    obtain ⟨rightBelow, rightDatabase⟩ := placed_database right rightInside
    have roots : firstRoots = lastRoots := by
      have both := left.rooted
      rw [same, right.rooted] at both
      exact (Except.ok.inj both).symm
    unfold SamePath at shared ⊢
    rw [leftDatabase, rightDatabase, left.stateDir, right.stateDir, roots, List.append_assoc,
      List.append_assoc] at shared
    have profiles := List.append_cancel_left shared
    simp only [List.cons_append, List.cons.injEq] at profiles
    rw [left.stateDir, right.stateDir, roots, profiles.2.1]

/-! Two profiles over one database, and two spellings of one directory. -/

def twoProfiles (databasePath : Option Text) : MissiveConfig :=
  ⟨⟨databasePath⟩, [("ci", ⟨none⟩), ("default", ⟨none⟩)]⟩

def stateAt (stateHome : String) : StatePathResolver :=
  ⟨[("HOME", "/home/user"), ("XDG_STATE_HOME", stateHome)], .linux⟩

def sharedDatabase : Option Text := some "/srv/missive.sqlite3".toList

def ciShared : Resolution := ⟨stateAt "/state", twoProfiles sharedDatabase, "ci", _, rfl⟩
def defaultShared : Resolution := ⟨stateAt "/state", twoProfiles sharedDatabase, "default", _, rfl⟩

def plainState : Resolution := ⟨stateAt "/state", twoProfiles none, "ci", _, rfl⟩
def slashedState : Resolution := ⟨stateAt "/state/", twoProfiles none, "ci", _, rfl⟩

theorem slashed_state_shares_lock :
    SamePath plainState.paths.databasePath slashedState.paths.databasePath ∧
    SamePath (plainState.paths.lockPath .stateMutation) (slashedState.paths.lockPath .stateMutation) := by
  have shared : SamePath plainState.paths.databasePath slashedState.paths.databasePath := by
    decide
  exact ⟨shared, (shared_database_shares_lock plainState slashedState shared).2.1 rfl rfl⟩

/-- Two profiles of one configuration share the database and lock different files. -/
theorem shared_database_locked_apart :
    ¬ ∀ first last : Resolution, SamePath first.paths.databasePath last.paths.databasePath →
      SamePath (first.paths.lockPath .stateMutation) (last.paths.lockPath .stateMutation) := by
  intro covers
  have apart : ¬ SamePath (ciShared.paths.lockPath .stateMutation)
      (defaultShared.paths.lockPath .stateMutation) := by
    decide
  exact apart (covers ciShared defaultShared (by decide))

end Missive.StoragePaths
