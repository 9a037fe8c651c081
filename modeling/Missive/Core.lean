import Mathlib.Data.String.Basic
import Missive.JsonValue
import Missive.KeyedTable
import Missive.RustText

/-! The types of `missive-core` that the other crates share: errors, identifiers
that are valid by construction, metadata maps and timestamps. The text a `{:?}`
format prints for a string is modelled up to escapes of unprintable characters
beyond ASCII. -/
namespace Missive.Core

open JsonValue KeyedTable

inductive ErrorCategory where
  | io
  | config
  | protocol
  | transport
  | storage
  | auth
  | validation
  | orchestration
  deriving DecidableEq

structure MissiveError where
  category : ErrorCategory
  detail : String
  help : Option String
  deriving DecidableEq

namespace MissiveError

def storage (detail : String) : MissiveError := ⟨.storage, detail, none⟩

def validation (detail : String) : MissiveError := ⟨.validation, detail, none⟩

def protocol (detail : String) : MissiveError := ⟨.protocol, detail, none⟩

def config (detail : String) : MissiveError := ⟨.config, detail, none⟩

def transport (detail : String) : MissiveError := ⟨.transport, detail, none⟩

def orchestration (detail : String) : MissiveError := ⟨.orchestration, detail, none⟩

def withHelp (error : MissiveError) (help : String) : MissiveError := { error with help := some help }

end MissiveError

def hexDigits (n : Nat) : String := String.ofList (Nat.toDigits 16 n)

def escapeDebug (c : Char) : String :=
  if c == '\x22' then "\\\"" else if c == '\\' then "\\\\"
  else if c == '\n' then "\\n" else if c == '\r' then "\\r" else if c == '\t' then "\\t"
  else if c == '\x00' then "\\0"
  else if RustText.isControl c then "\\u\x7b" ++ hexDigits c.toNat ++ "\x7d"
  else c.toString

-- `{value:?}` of a string.
def debug (value : String) : String :=
  "\"" ++ String.join (value.toList.map escapeDebug) ++ "\""

/-! Identifiers. Each kind has its label, its validator and its help text. -/

inductive IdKind where
  | agentAlias
  | groupName
  | rankName
  | transportName
  | contextId
  | taskId
  | messageId
  | eventId
  | gatewayJobId
  | gatewaySessionId
  | adapterBindingId
  | artifactId
  | pushConfigId
  deriving DecidableEq

def IdKind.label : IdKind → String
  | .agentAlias => "agent alias"
  | .groupName => "group name"
  | .rankName => "rank name"
  | .transportName => "transport name"
  | .contextId => "context id"
  | .taskId => "task id"
  | .messageId => "message id"
  | .eventId => "event id"
  | .gatewayJobId => "gateway job id"
  | .gatewaySessionId => "gateway session id"
  | .adapterBindingId => "adapter binding id"
  | .artifactId => "artifact id"
  | .pushConfigId => "push config id"

def isLowerAlphanumeric (c : Char) : Bool :=
  RustText.isAsciiLowercase c || RustText.isAsciiDigit c

def isNamedSeparator (c : Char) : Bool := c == '-' || c == '_' || c == '.'

def isTransportSeparator (c : Char) : Bool := c == '+' || isNamedSeparator c

/-- `validate_identifier_shape`, as the reason it gives. The source looks at
bytes; a byte is a lowercase letter, a digit or a separator only as a character. -/
def shapeReason (value : String) (maxBytes : Nat) (allowed : String)
    (separator : Char → Bool) : Option String :=
  if value.isEmpty then some "value cannot be empty"
  else if value.utf8ByteSize > maxBytes then
    some s!"value is {value.utf8ByteSize} bytes, but the maximum is {maxBytes}"
  else if !value.toList.head?.any isLowerAlphanumeric then
    some "value must start with a lowercase ASCII letter or digit"
  else if !value.toList.getLast?.any isLowerAlphanumeric then
    some "value must end with a lowercase ASCII letter or digit"
  else if value.toList.all fun c => isLowerAlphanumeric c || separator c then none
  else some s!"value must contain only {allowed}"

/-- `validate_opaque_identifier` and `validate_store_identifier`. -/
def opaqueReason (value : String) : Option String :=
  if value.isEmpty then some "value cannot be empty"
  else if value.utf8ByteSize > 256 then
    some s!"value is {value.utf8ByteSize} bytes, but the maximum is 256"
  else if value.toList.any RustText.isWhitespace then some "value cannot contain whitespace"
  else if value.toList.any RustText.isControl then some "value cannot contain control characters"
  else none

def IdKind.reason : IdKind → String → Option String
  | .agentAlias, value | .groupName, value | .rankName, value =>
      shapeReason value 63 "lowercase ASCII letters, digits, '-', '_' or '.'" isNamedSeparator
  | .transportName, value =>
      shapeReason value 64 "lowercase ASCII letters, digits, '+', '-', '_' or '.'"
        isTransportSeparator
  | _, value => opaqueReason value

def IdKind.help : IdKind → String
  | .agentAlias | .groupName | .rankName =>
      "Use lowercase ASCII letters or digits, with '-', '_' or '.' only in the middle."
  | .transportName =>
      "Use lowercase ASCII letters or digits, with '+', '-', '_' or '.' only in the middle."
  | .contextId | .taskId | .messageId | .eventId =>
      "Use a non-empty A2A identifier without whitespace or control characters."
  | _ => "Use a non-empty identifier without whitespace or control characters."

structure Id (kind : IdKind) where
  text : String
  valid : kind.reason text = none
  deriving DecidableEq

def Id.new (kind : IdKind) (value : String) : Except MissiveError (Id kind) :=
  match found : kind.reason value with
  | none => .ok ⟨value, found⟩
  | some reason =>
      .error ((MissiveError.validation s!"invalid {kind.label} {debug value}: {reason}").withHelp
        kind.help)

abbrev AgentAlias := Id .agentAlias
abbrev GroupName := Id .groupName
abbrev RankName := Id .rankName
abbrev TransportName := Id .transportName
abbrev ContextId := Id .contextId
abbrev TaskId := Id .taskId
abbrev MessageId := Id .messageId
abbrev EventId := Id .eventId
abbrev GatewayJobId := Id .gatewayJobId
abbrev GatewaySessionId := Id .gatewaySessionId
abbrev AdapterBindingId := Id .adapterBindingId
abbrev ArtifactId := Id .artifactId
abbrev PushConfigId := Id .pushConfigId

theorem Id.ext_text {kind : IdKind} {first last : Id kind} (same : first.text = last.text) :
    first = last := by
  cases first
  cases last
  cases same
  rfl

-- SQLite compares keys byte by byte, which for UTF-8 is the order of code points.
instance (kind : IdKind) : LinearOrder (Id kind) :=
  LinearOrder.lift' Id.text fun _ _ => Id.ext_text

@[simp] theorem Id.new_text {kind : IdKind} (id : Id kind) : Id.new kind id.text = .ok id := by
  have valid := id.valid
  unfold Id.new
  split
  · rfl
  · rename_i reason found
    rw [valid] at found
    contradiction

theorem Id.text_of_new {kind : IdKind} {value : String} {id : Id kind}
    (made : Id.new kind value = .ok id) : id.text = value := by
  unfold Id.new at made
  split at made
  · cases made
    rfl
  · contradiction

/-! Metadata maps, kept in key order. -/

def metadataKeyReason (key : String) : Option String :=
  if key.isEmpty then some "key cannot be empty"
  else if key.utf8ByteSize > 128 then
    some s!"key is {key.utf8ByteSize} bytes, but the maximum is 128"
  else if key.toList.any RustText.isWhitespace then some "key cannot contain whitespace"
  else if key.toList.any RustText.isControl then some "key cannot contain control characters"
  else none

instance : Keyed (String × Json) String where
  key := Prod.fst

structure Metadata where
  entries : Table (String × Json)
  valid : ∀ entry ∈ entries.rows, metadataKeyReason entry.1 = none

namespace Metadata

def new : Metadata := ⟨Table.empty, by simp [Table.empty]⟩

def get (metadata : Metadata) (key : String) : Option Json :=
  (metadata.entries.find? key).map Prod.snd

-- Insertion of a key that passes the check, such as every constant key of the source.
def insertValid (metadata : Metadata) (name : String) (value : Json)
    (passes : metadataKeyReason name = none) : Metadata where
  entries := metadata.entries.put (name, value)
  valid := by
    intro entry member
    rcases (Table.mem_put metadata.entries (name, value) entry).mp member with rfl | ⟨old, _⟩
    · exact passes
    · exact metadata.valid entry old

def insert (metadata : Metadata) (name : String) (value : Json) : Except MissiveError Metadata :=
  match found : metadataKeyReason name with
  | none => .ok (metadata.insertValid name value found)
  | some reason =>
      .error ((MissiveError.validation s!"invalid metadata key {debug name}: {reason}").withHelp
        "Use a short non-empty metadata key without whitespace or control characters.")

def toJson (metadata : Metadata) : Json := .object metadata.entries.rows

theorem merge_valid (entries : List (String × Json)) (metadata : Metadata)
    (valid : ∀ entry ∈ entries, metadataKeyReason entry.1 = none) :
    ∀ entry ∈ (entries.foldl Table.put metadata.entries).rows, metadataKeyReason entry.1 = none := by
  induction entries generalizing metadata with
  | nil => exact metadata.valid
  | cons head rest ih =>
      exact ih (metadata.insertValid head.1 head.2 (valid head List.mem_cons_self)) fun entry later =>
        valid entry (List.mem_cons_of_mem _ later)

-- `merge`: the entries of the other map replace those under the same keys.
def merge (metadata other : Metadata) : Metadata where
  entries := other.entries.rows.foldl Table.put metadata.entries
  valid := merge_valid other.entries.rows metadata other.valid

theorem insert_valid (metadata : Metadata) (name : String) (value : Json)
    (passes : metadataKeyReason name = none) :
    metadata.insert name value = .ok (metadata.insertValid name value passes) := by
  unfold insert
  split
  · rfl
  · rename_i reason found
    rw [passes] at found
    contradiction

theorem get_insertValid (metadata : Metadata) (name : String) (value : Json)
    (passes : metadataKeyReason name = none) (wanted : String) :
    (metadata.insertValid name value passes).get wanted =
      if wanted = name then some value else metadata.get wanted := by
  have found := metadata.entries.find?_put (name, value) wanted
  unfold get insertValid
  rw [found]
  by_cases same : wanted = name
  · rw [if_pos same, if_pos (show wanted = key (name, value) from same)]
    rfl
  · rw [if_neg same, if_neg (show wanted ≠ key (name, value) from same)]

theorem get_insert {metadata after : Metadata} {name : String} {value : Json}
    (inserted : metadata.insert name value = .ok after) (wanted : String) :
    after.get wanted = if wanted = name then some value else metadata.get wanted := by
  unfold insert at inserted
  split at inserted
  · cases inserted
    exact get_insertValid metadata name value _ wanted
  · contradiction

end Metadata

/-! Timestamps. The program reads the clock at full resolution, writes columns
with whole seconds, and lets SQLite fill other columns with milliseconds. -/

structure MissiveTimestamp where
  nanos : Int
  deriving DecidableEq

-- A column written by `to_rfc3339`.
structure SecondTime where
  seconds : Int
  deriving DecidableEq

-- A column written by `strftime('%Y-%m-%dT%H:%M:%fZ', 'now')`.
structure MilliTime where
  millis : Int
  deriving DecidableEq

namespace MissiveTimestamp

def unixTimestamp (time : MissiveTimestamp) : Int := time.nanos / 1000000000

def toRfc3339 (time : MissiveTimestamp) : SecondTime := ⟨time.unixTimestamp⟩

def toMillis (time : MissiveTimestamp) : MilliTime := ⟨time.nanos / 1000000⟩

/-- `from_unix_timestamp`, within the range of chrono. -/
def fromUnixTimestamp (seconds : Int) : Except MissiveError MissiveTimestamp :=
  if -8334601228800 ≤ seconds ∧ seconds ≤ 8210266876799 then .ok ⟨seconds * 1000000000⟩
  else .error ((MissiveError.validation
    s!"invalid unix timestamp {seconds}: value is outside supported range").withHelp
      "Use a Unix timestamp supported by chrono.")

end MissiveTimestamp

-- What reading the column back gives.
def SecondTime.parse (time : SecondTime) : MissiveTimestamp := ⟨time.seconds * 1000000000⟩

theorem parse_toRfc3339 (time : SecondTime) : time.parse.toRfc3339 = time := by
  obtain ⟨seconds⟩ := time
  simp [SecondTime.parse, MissiveTimestamp.toRfc3339, MissiveTimestamp.unixTimestamp]

def SecondTime.notAfter (time : SecondTime) (now : MissiveTimestamp) : Bool :=
  time.parse.nanos ≤ now.nanos

/-! The text of a whole-second time, `to_rfc3339_opts(Secs, true)`. -/

def zeroPadded (width n : Nat) : String :=
  let digits := Nat.toDigits 10 n
  String.ofList (List.replicate (width - digits.length) '0' ++ digits)

-- The proleptic Gregorian date of a day counted from 1970-01-01, in eras of 400 years from March.
def civilDate (days : Int) : Int × Nat × Nat :=
  let shifted := days + 719468
  let era := shifted / 146097
  let dayOfEra := (shifted - era * 146097).toNat
  let yearOfEra := (dayOfEra - dayOfEra / 1460 + dayOfEra / 36524 - dayOfEra / 146096) / 365
  let dayOfYear := dayOfEra - (365 * yearOfEra + yearOfEra / 4 - yearOfEra / 100)
  let monthFromMarch := (5 * dayOfYear + 2) / 153
  let day := dayOfYear - (153 * monthFromMarch + 2) / 5 + 1
  let month := if monthFromMarch < 10 then monthFromMarch + 3 else monthFromMarch - 9
  let year := era * 400 + yearOfEra
  (if month ≤ 2 then year + 1 else year, month, day)

def yearText (year : Int) : String :=
  if 0 ≤ year ∧ year ≤ 9999 then zeroPadded 4 year.toNat
  else (if year < 0 then "-" else "+") ++ zeroPadded 4 year.natAbs

def SecondTime.render (time : SecondTime) : String :=
  let date := civilDate (time.seconds / 86400)
  let inDay := (time.seconds % 86400).toNat
  yearText date.1 ++ "-" ++ zeroPadded 2 date.2.1 ++ "-" ++ zeroPadded 2 date.2.2 ++ "T" ++
    zeroPadded 2 (inDay / 3600) ++ ":" ++ zeroPadded 2 (inDay / 60 % 60) ++ ":" ++
    zeroPadded 2 (inDay % 60) ++ "Z"

end Missive.Core
