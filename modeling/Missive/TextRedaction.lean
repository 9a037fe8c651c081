import Missive.SecretKeys

/-! Free-text redaction: `redact_text` of the CLI output redactor and of the log
redactor, and `redact_config_text`. Each runs `redact_after_auth_scheme` once per
scheme word; the first two then run `redact_secret_assignments`. The scanners of
the source walk a character vector by index; here the walk carries the character
before the index and the characters from the index on. -/
namespace Missive.TextRedaction

open RustText SecretKeys

/-- `REDACTED` and `CONFIG_REDACTED`. -/
def redacted : Text := "[REDACTED]".toList

/-- The characters that end a credential. -/
def isCredentialEnd (c : Char) : Bool := isWhitespace c || c == ',' || c == ';'

/-- `redact_after_auth_scheme`: one turn of its loop and the turns after it. -/
def redactAfterAuthScheme (input scheme : Text) : Text :=
  match _found : findAsciiCaseInsensitive input (scheme ++ [' ']) with
  | none => input
  | some index =>
      let prefixEnd := index + (scheme ++ [' ']).length
      let remaining := input.drop prefixEnd
      let secretEnd := remaining.findIdx isCredentialEnd
      input.take prefixEnd ++ (if secretEnd > 0 then redacted else []) ++
        redactAfterAuthScheme (remaining.drop secretEnd) scheme
termination_by input.length
decreasing_by
  have bound := find_bound _ _ _ _found
  simp only [length_lowercase, List.length_append, List.length_singleton, List.length_drop]
    at bound ⊢
  omega

/-- The passes of `redact_text`, in the order of the source's array. -/
def redactAuthSchemes (schemes : List Text) (input : Text) : Text :=
  schemes.foldl redactAfterAuthScheme input

def authSchemes : List Text :=
  ["Bearer".toList, "Basic".toList, "Token".toList, "ApiKey".toList, "Api-Key".toList]

/-- The array of `redact_config_text`, which lacks `Api-Key`. -/
def configAuthSchemes : List Text :=
  ["Bearer".toList, "Basic".toList, "Token".toList, "ApiKey".toList]

def isKeyCharacter (c : Char) : Bool := isAsciiAlphanumeric c || c == '_' || c == '-'

def isQuote (c : Char) : Bool := c == '\x22' || c == '\x27'

def isSeparator (c : Char) : Bool := c == '=' || c == ':'

def isUnquotedSecretDelimiter (c : Char) : Bool :=
  isWhitespace c || c == ',' || c == ';' || c == '}' || c == ']'

def charsStartWith (rest needle : Text) : Bool := needle.isPrefixOf rest

def charsStartWithAsciiCaseInsensitive (rest needle : Text) : Bool :=
  (lowercase needle).isPrefixOf (lowercase rest)

def authSchemeLenAt (rest : Text) : Option Nat :=
  (authSchemes.find? fun scheme =>
    charsStartWithAsciiCaseInsensitive rest scheme &&
      (rest.drop scheme.length).head?.any isWhitespace).map List.length

def unquotedLength (rest : Text) : Nat :=
  (rest.takeWhile fun c => !isUnquotedSecretDelimiter c).length

/-- `skip_unquoted_secret_value`, as the number of characters it skips. -/
def skipUnquotedSecretValue (rest : Text) : Nat :=
  if charsStartWith rest redacted then redacted.length
  else
    match authSchemeLenAt rest with
    | some schemeLen =>
        let blanks := ((rest.drop schemeLen).takeWhile isWhitespace).length
        let value := rest.drop (schemeLen + blanks)
        if charsStartWith value redacted then schemeLen + blanks + redacted.length
        else schemeLen + blanks + unquotedLength value
    | none => unquotedLength rest

section Assignments

-- The key test and the rule for where an unquoted value ends, in which the two copies differ.
variable (secret : Text → Bool) (skip : Text → Nat)

def secretKeyEndAt (previous : Option Char) (rest : Text) : Option Nat :=
  if previous.any isKeyCharacter then none
  else if !rest.head?.any isKeyCharacter then none
  else if secret (normalizeKey (rest.takeWhile isKeyCharacter)) then
    some (rest.takeWhile isKeyCharacter).length
  else none

/-- The offset just past the separator, when a secret key, an optional closing
quote, blanks and `=` or `:` start here. -/
def assignmentAt (previous : Option Char) (rest : Text) : Option Nat :=
  (secretKeyEndAt secret previous rest).bind fun keyEnd =>
    let quoted := if (rest.drop keyEnd).head?.any isQuote then keyEnd + 1 else keyEnd
    let separator := quoted + ((rest.drop quoted).takeWhile isWhitespace).length
    if (rest.drop separator).head?.any isSeparator then some (separator + 1) else none

/-- What is written for a value and how many of its characters are read. -/
def redactValue : Text → Text × Nat
  | quote :: quoted =>
      if isQuote quote then
        let body := (quoted.takeWhile (· != quote)).length
        match quoted.drop body with
        | [] => (quote :: redacted, body + 1)
        | close :: _ => (quote :: redacted ++ [close], body + 2)
      else (redacted, skip (quote :: quoted))
  | [] => (redacted, skip [])

theorem assignment_advances (previous : Option Char) (rest : Text) (keyed : Nat)
    (found : assignmentAt secret previous rest = some keyed) : 0 < keyed := by
  obtain ⟨keyEnd, _, separated⟩ := Option.bind_eq_some_iff.mp found
  simp only [Option.ite_none_right_eq_some, Option.some.injEq] at separated
  exact separated.2 ▸ Nat.succ_pos _

def redactSecretAssignmentsFrom (previous : Option Char) (rest : Text) : Text :=
  match rest with
  | [] => []
  | c :: tail =>
      match _found : assignmentAt secret previous (c :: tail) with
      | none => c :: redactSecretAssignmentsFrom (some c) tail
      | some keyed =>
          let blanks := ((c :: tail).drop keyed).takeWhile isWhitespace
          let value := (c :: tail).drop (keyed + blanks.length)
          let read := keyed + blanks.length + (redactValue skip value).2
          (c :: tail).take keyed ++ blanks ++ (redactValue skip value).1 ++
            redactSecretAssignmentsFrom ((c :: tail).take read).getLast? ((c :: tail).drop read)
termination_by rest.length
decreasing_by
  · simp
  · have := assignment_advances secret previous (c :: tail) keyed _found
    simp only [List.length_drop, List.length_cons]
    omega

def redactSecretAssignments (input : Text) : Text :=
  redactSecretAssignmentsFrom secret skip none input

end Assignments

/-- `redact_text` of `missive-cli/src/output.rs`. -/
def outputRedactText (input : Text) : Text :=
  redactSecretAssignments outputRule.isSecretKeyNormalized skipUnquotedSecretValue
    (redactAuthSchemes authSchemes input)

/-- `redact_text` of `missive-observe/src/lib.rs`. -/
def observeRedactText (input : Text) : Text :=
  redactSecretAssignments observeRule.isSecretKeyNormalized unquotedLength
    (redactAuthSchemes authSchemes input)

/-- `redact_config_text` of `missive-core/src/config.rs`. -/
def redactConfigText (input : Text) : Text := redactAuthSchemes configAuthSchemes input

example : outputRedactText "token=value api_key: value".toList =
    "token=[REDACTED] api_key: [REDACTED]".toList := by decide +kernel

end Missive.TextRedaction
