import Mathlib.Data.List.TakeWhile
import Missive.JsonObjects
import Missive.JsonRedaction
import Missive.RedactionEchoes

/-! Redacting again what has been redacted: the texts and JSON values of the CLI, which are redacted
when they are journalled and when they are printed, and the fields of a log event, which
`RedactingVisitor` redacts twice. -/
namespace Missive.RedactionIdempotence

open RustText SecretKeys TextRedaction AuthCredentials SecretAssignments Transducer JsonValue
  JsonRedaction KeyedTable RedactionEchoes

/-! The CLI output redactor: a marker is stepped over wherever a value starts. -/

theorem output_text_twice (input : Text) :
    outputRedactText (outputRedactText input) = outputRedactText input := by
  have exact := fun text => redactor_machine_exact .output text
  have twice := run_twice Redactor.output.rule.isSecretKeyNormalized .schemed input
    (Machine.along_all _ _ (fun _ _ _ => Or.inl (by decide)) _ input) (fun _ => by decide)
  change Redactor.output.machine.run (Redactor.output.machine.run input) =
    Redactor.output.machine.run input at twice
  rw [exact, exact] at twice
  exact twice

theorem before_whitespace_free (text word : Text) (found : beforeWhitespace text = some word) :
    ∀ c ∈ word, isWhitespace c = false := by
  unfold beforeWhitespace at found
  split at found
  · cases found
    intro c member
    simpa using List.mem_takeWhile_imp member
  · contradiction

theorem header_redacted : outputRedactHeaderValue redacted = redacted := by decide

theorem header_schemed (scheme : Text) (visible : ∀ c ∈ scheme, isWhitespace c = false)
    (listed : isAuthScheme scheme = true) :
    outputRedactHeaderValue (scheme ++ [' '] ++ redacted) = scheme ++ [' '] ++ redacted := by
  have nonempty : scheme ≠ [] := by
    rintro rfl
    exact absurd listed (by decide)
  have kept : trim (scheme ++ [' '] ++ redacted) = scheme ++ [' '] ++ redacted := by
    apply trim_kept
    · intro c head
      cases scheme with
      | nil => exact absurd rfl nonempty
      | cons first rest =>
          cases head
          exact visible c List.mem_cons_self
    · intro c last
      rw [redacted_spelled, List.getLast?_append] at last
      cases last
      decide
  have split : beforeWhitespace (scheme ++ [' '] ++ redacted) = some scheme := by
    have blank : (scheme ++ [' '] ++ redacted).any isWhitespace = true := by
      have space : isWhitespace ' ' = true := by decide
      simp [space]
    rw [beforeWhitespace, if_pos blank, List.append_assoc,
      List.takeWhile_append_of_pos fun c member => by simp [visible c member]]
    have space : isWhitespace ' ' = true := by decide
    simp [space]
  rw [outputRedactHeaderValue, configRedactHeaderValue, kept, split]
  simp [listed]

theorem header_twice (value : Text) :
    outputRedactHeaderValue (outputRedactHeaderValue value) = outputRedactHeaderValue value := by
  have shapes : outputRedactHeaderValue value = redacted ∨ ∃ scheme,
      beforeWhitespace (trim value) = some scheme ∧ isAuthScheme scheme = true ∧
        outputRedactHeaderValue value = scheme ++ [' '] ++ redacted := by
    by_cases empty : (trim value).isEmpty = true
    · exact Or.inl (by simp [outputRedactHeaderValue, empty])
    · cases found : beforeWhitespace (trim value) with
      | none => exact Or.inl (by simp [outputRedactHeaderValue, configRedactHeaderValue, empty, found])
      | some scheme =>
          by_cases listed : isAuthScheme scheme = true
          · refine Or.inr ⟨scheme, rfl, listed, ?_⟩
            simp [outputRedactHeaderValue, configRedactHeaderValue, empty, found, listed]
          · refine Or.inl ?_
            simp [outputRedactHeaderValue, configRedactHeaderValue, empty, found, listed]
  rcases shapes with marker | ⟨scheme, found, listed, written⟩
  · rw [marker, header_redacted]
  · rw [written, header_schemed scheme (before_whitespace_free _ scheme found) listed]

/-! JSON values. -/

-- What is written for a text is a text that is written again.
def Settles (redact : String → Json) : Prop :=
  ∀ value, ∃ fixed, redact value = .string fixed ∧ redact fixed = .string fixed

theorem settles_onText (redact : Text → Text) (twice : ∀ text, redact (redact text) = redact text) :
    Settles (onText redact) := by
  intro value
  refine ⟨String.ofList (redact value.toList), rfl, ?_⟩
  rw [onText, String.toList_ofList, twice]

/-- The texts of a value and of a header settle, and a marker is a header's own text. -/
structure Stable (text header : String → Json) : Prop where
  texts : Settles text
  headers : Settles header
  marked : header (String.ofList redacted) = marker

section Values

variable (secret : String → Bool) {text header : String → Json}

theorem marker_again (stable : Stable text header) (name : String) (hit : secret name = true) :
    redactHeaderJsonValue secret text header name marker = marker := by
  rw [marker, redactHeaderJsonValue, if_pos hit, stable.marked]
  rfl

mutual

theorem deep_twice (stable : Stable text header) : ∀ value : Json,
    redactDeep secret text header (redactDeep secret text header value) =
      redactDeep secret text header value
  | .null => rfl
  | .bool _ => rfl
  | .number _ => rfl
  | .string value => by
      obtain ⟨fixed, written, again⟩ := stable.texts value
      rw [redactDeep, written, redactDeep, again]
  | .array items => by simp only [redactDeep, items_twice stable items]
  | .object fields => by simp only [redactDeep, object_twice stable fields]

theorem items_twice (stable : Stable text header) : ∀ items : List Json,
    redactDeepItems secret text header (redactDeepItems secret text header items) =
      redactDeepItems secret text header items
  | [] => rfl
  | item :: rest => by simp only [redactDeepItems, deep_twice stable item, items_twice stable rest]

theorem object_twice (stable : Stable text header) : ∀ fields : List (String × Json),
    redactObject secret text header (redactObject secret text header fields) =
      redactObject secret text header fields
  | [] => rfl
  | (key, value) :: rest => by
      have later := object_twice stable rest
      by_cases hit : secret key = true
      · simp only [redactObject, hit, if_true, later]
      by_cases named : namesHeaders key = true
      · simp only [redactObject, hit, named, if_true, if_false, Bool.false_eq_true, later,
          headers_field_twice stable value]
      · simp only [redactObject, hit, named, if_false, Bool.false_eq_true, later,
          deep_twice stable value]

theorem headers_field_twice (stable : Stable text header) : ∀ value : Json,
    redactHeadersField secret text header (redactHeadersField secret text header value) =
      redactHeadersField secret text header value
  | .null => rfl
  | .bool _ => rfl
  | .number _ => rfl
  | .string value => by
      obtain ⟨fixed, written, again⟩ := stable.texts value
      rw [redactHeadersField, written, redactHeadersField, again]
  | .array items => by simp only [redactHeadersField, items_twice stable items]
  | .object fields => by simp only [redactHeadersField, headers_twice stable fields]

theorem headers_twice (stable : Stable text header) : ∀ fields : List (String × Json),
    redactHeaders secret text header (redactHeaders secret text header fields) =
      redactHeaders secret text header fields
  | [] => rfl
  | (name, value) :: rest => by
      simp only [redactHeaders, header_json_twice stable name value, headers_twice stable rest]

theorem header_json_twice (stable : Stable text header) (name : String) : ∀ value : Json,
    redactHeaderJsonValue secret text header name (redactHeaderJsonValue secret text header name value) =
      redactHeaderJsonValue secret text header name value
  | .string value => by
      by_cases hit : secret name = true
      · obtain ⟨fixed, written, again⟩ := stable.headers value
        simp [redactHeaderJsonValue, hit, written, again]
      · obtain ⟨fixed, written, again⟩ := stable.texts value
        simp [redactHeaderJsonValue, hit, written, again]
  | .array items => by
      by_cases hit : secret name = true
      · simp [redactHeaderJsonValue, hit, marker_again secret stable]
      · simp [redactHeaderJsonValue, hit, items_twice stable items]
  | .object fields => by
      by_cases hit : secret name = true
      · simp [redactHeaderJsonValue, hit, marker_again secret stable]
      · simp [redactHeaderJsonValue, hit, object_twice stable fields]
  | .null => by
      by_cases hit : secret name = true <;> simp [redactHeaderJsonValue, hit, marker_again secret stable]
  | .bool _ => by
      by_cases hit : secret name = true <;> simp [redactHeaderJsonValue, hit, marker_again secret stable]
  | .number _ => by
      by_cases hit : secret name = true <;> simp [redactHeaderJsonValue, hit, marker_again secret stable]

end

end Values

/-- What the CLI has redacted once, text or JSON, is unchanged when it is redacted again. -/
theorem output_redaction_idempotent (input : Text) (value : Json) :
    outputRedactText (outputRedactText input) = outputRedactText input ∧
      outputRedactJson (outputRedactJson value) = outputRedactJson value := by
  refine ⟨output_text_twice input, ?_⟩
  apply deep_twice
  constructor
  · exact settles_onText _ output_text_twice
  · exact settles_onText _ header_twice
  · rw [onText, String.toList_ofList, header_redacted]
    rfl

/-! The log redactor has no rule for a marker: what it reads behind `=` ends at the marker's own
bracket, which it copies. -/

section Logs

variable (secret : Text → Bool)

theorem plain_marker : (assignmentMachine secret .plain).reach .value redacted = .text [] ∧
    (assignmentMachine secret .plain).emit .value redacted = redacted ++ [']'] := by
  constructor <;> rfl

-- A bracket written in front of a text stays in front of it.
theorem bracket_added (place : Place) (run rest : Text) (untaken : place.taken = none) :
    ']' :: (again secret .plain).runFrom (place, .text run) rest ≠ rest := by
  induction rest generalizing place run with
  | nil => exact List.cons_ne_nil _ _
  | cons c rest ih =>
      intro same
      rw [List.cons.injEq] at same
      obtain ⟨bracket, later⟩ := same
      subst bracket
      have inside : isCredentialEnd ']' = false := by decide
      have foreign : isKeyCharacter ']' = false ∧ isSeparator ']' = false ∧ isQuote ']' = false ∧
        isWhitespace ']' = false := by decide
      have copied : textStep secret run ']' = (.text [], [']']) := by simp [textStep, foreign]
      have step : (again secret .plain).step (place, .text run) ']' =
          ((⟨place.letters ++ [']'], place.taken⟩, .text []), [']']) := by
        have first := place_continued place ']' inside
        have written := place_copies place ']' (Or.inl untaken)
        simp only [again, Machine.compose, first, written, Machine.reach_cons, Machine.reach_nil,
          Machine.emit_cons, Machine.emit_nil, assignment_machine_step, scanStep, copied,
          List.append_nil]
      rw [Machine.runFrom_cons, step] at later
      exact ih ⟨place.letters ++ [']'], place.taken⟩ [] untaken later

theorem marker_not_kept (place : Place) (rest : Text) (untaken : place.taken = none) :
    (again secret .plain).runFrom (place, .value) (redacted ++ rest) ≠ redacted ++ rest := by
  obtain ⟨read, copied⟩ := marker_copied place untaken
  obtain ⟨scanned, written⟩ := plain_marker secret
  have reached : (again secret .plain).reach (place, .value) redacted =
      (⟨place.letters ++ redacted, none⟩, .text []) := by
    rw [again, Machine.compose_reach, read, copied, scanned]
  have emitted : (again secret .plain).emit (place, .value) redacted = redacted ++ [']'] := by
    rw [again, Machine.compose_emit, copied, written]
  intro same
  rw [Machine.runFrom_append, reached, emitted, List.append_assoc] at same
  exact bracket_added secret _ [] rest rfl (List.append_cancel_left same)

-- An unquoted value is written as a marker.
theorem unquoted_written (place : Place) (after : Text) (untaken : place.taken = none)
    (unquoted : after.head?.any (fun c => isWhitespace c || isQuote c) = false) :
    ∃ rest, (again secret .plain).runFrom (place, .value) after = redacted ++ rest := by
  cases after with
  | nil => exact ⟨[], rfl⟩
  | cons c after =>
      simp only [List.head?_cons, Option.any_some, Bool.or_eq_false_iff] at unquoted
      obtain ⟨visible, unmarked⟩ := unquoted
      have written : ∃ rest, ((again secret .plain).step (place, .value) c).2 = redacted ++ rest := by
        have copied : ((again secret .plain).step (place, .value) c).2 =
            (scanStep secret .plain .value c).2 := by
          have single := place_copies place c (Or.inl untaken)
          simp only [again, Machine.compose, single, Machine.emit_cons, Machine.emit_nil,
            assignment_machine_step, List.append_nil]
        rw [copied]
        by_cases delimiter : isUnquotedSecretDelimiter c = true
        · exact ⟨[c], by simp [scanStep, visible, unmarked, delimiter]⟩
        · exact ⟨[], by simp [scanStep, visible, unmarked, delimiter]⟩
      obtain ⟨rest, written⟩ := written
      rw [Machine.runFrom_cons, written, List.append_assoc]
      exact ⟨_, rfl⟩

theorem unquoted_grows (before after : Text)
    (along : (again secret .plain).Along (Marked .plain) (again secret .plain).start before)
    (awaited : ((again secret .plain).reach (again secret .plain).start before).2 = .value)
    (unquoted : after.head?.any (fun c => isWhitespace c || isQuote c) = false) :
    (again secret .plain).run ((again secret .plain).run (before ++ after)) ≠
      (again secret .plain).run (before ++ after) := by
  obtain ⟨side, echoed⟩ := (again_echoes secret .plain).reaches (side_start secret .plain) before along
  obtain ⟨settles, places⟩ := side
  rw [awaited] at settles places
  obtain ⟨untaken, _, behind⟩ := places
  have first : (again secret .plain).reach (again secret .plain).start before =
      (((again secret .plain).reach (again secret .plain).start before).1, .value) := Prod.ext rfl awaited
  have last : (again secret .plain).reach (again secret .plain).start
        ((again secret .plain).emit (again secret .plain).start before) =
      (((again secret .plain).reach (again secret .plain).start
        ((again secret .plain).emit (again secret .plain).start before)).1, .value) :=
    Prod.ext rfl settles
  obtain ⟨rest, written⟩ := unquoted_written secret _ after untaken unquoted
  have once : (again secret .plain).run (before ++ after) =
      (again secret .plain).emit (again secret .plain).start before ++ (redacted ++ rest) := by
    rw [Machine.run, Machine.runFrom_append, first, written]
  intro same
  rw [once, Machine.run, Machine.runFrom_append, echoed, last] at same
  exact marker_not_kept secret _ rest behind.1 (List.append_cancel_left same)

end Logs

/-- Wherever the reading of a text has come to the start of a secret's value, a blank or a quote
follows: no secret value is bare, cut short by the end of the text or left out. -/
def ValuesQuoted (text : Text) : Prop :=
  ∀ before after, text = before ++ after →
    (Redactor.log.machine.reach Redactor.log.machine.start before).2 = .value →
    after.head?.any (fun c => isWhitespace c || isQuote c) = true

theorem log_text_twice_iff (text : Text) :
    observeRedactText (observeRedactText text) = observeRedactText text ↔ ValuesQuoted text := by
  have exact := fun input => redactor_machine_exact .log input
  change (∀ input, Redactor.log.machine.run input = observeRedactText input) at exact
  rw [← exact text, ← exact]
  constructor
  · intro twice
    have never : ∀ before after, text = before ++ after →
        Redactor.log.machine.Along (Marked .plain) Redactor.log.machine.start before →
        (Redactor.log.machine.reach Redactor.log.machine.start before).2 = .value →
        after.head?.any (fun c => isWhitespace c || isQuote c) = true := by
      intro before after parts along awaited
      by_contra bare
      rw [parts] at twice
      exact unquoted_grows Redactor.log.rule.isSecretKeyNormalized before after along awaited
        (by simpa using bare) twice
    rcases Redactor.log.machine.along_or_first (Marked .plain) Redactor.log.machine.start text with
      along | ⟨before, c, after, parts, along, stops⟩
    · intro before after parts awaited
      cases after with
      | nil =>
          rw [List.append_nil] at parts
          subst parts
          exact never text [] (List.append_nil text).symm along awaited
      | cons c after =>
          rw [parts] at along
          rcases along.stops awaited with replaced | blank | quote
          · exact absurd rfl replaced
          · simp [blank]
          · simp [quote]
    · exfalso
      apply stops
      intro awaited
      have shown := never before (c :: after) parts along awaited
      exact Or.inr (by simpa using shown)
  · intro quoted
    have along : Redactor.log.machine.Along (Marked .plain) Redactor.log.machine.start text := by
      rcases Redactor.log.machine.along_or_first (Marked .plain) Redactor.log.machine.start text with
        along | ⟨before, c, after, parts, _, stops⟩
      · exact along
      · exfalso
        apply stops
        intro awaited
        have shown := quoted before (c :: after) parts awaited
        exact Or.inr (by simpa using shown)
    apply run_twice Redactor.log.rule.isSecretKeyNormalized .plain text along
    intro awaited
    have shown := quoted text [] (List.append_nil text).symm awaited
    simp at shown

/-! The fields of a log event. -/

/-- `RedactingVisitor`: the recorded fields by name. -/
structure RedactingVisitor where
  fields : Table (String × Json)

def RedactingVisitor.insert (visitor : RedactingVisitor) (name : String) (value : Json) : RedactingVisitor where
  fields := visitor.fields.put
    (name, if observeRule.isSecretKey name.toList then marker else observeRedactJson value)

def RedactingVisitor.recordStr (visitor : RedactingVisitor) (name value : String) : RedactingVisitor :=
  visitor.insert name (onText observeRedactText value)

theorem find_recordStr (visitor : RedactingVisitor) (name value : String)
    (shown : observeRule.isSecretKey name.toList = false) :
    (visitor.recordStr name value).fields.find? name =
      some (name, onText (fun text => observeRedactText (observeRedactText text)) value) := by
  rw [RedactingVisitor.recordStr, RedactingVisitor.insert, Table.find?_put]
  simp [KeyedTable.key, shown, observeRedactJson, redactPlain, onText]

/-- The log redactor gives back what it has written, and a text field is recorded as redacted once,
exactly for the texts whose secret values are quoted. -/
theorem log_redaction_idempotent_iff (text : Text) :
    (observeRedactText (observeRedactText text) = observeRedactText text ∧
        ∀ (visitor : RedactingVisitor) (name : String), observeRule.isSecretKey name.toList = false →
          (visitor.recordStr name (String.ofList text)).fields.find? name =
            some (name, onText observeRedactText (String.ofList text))) ↔ ValuesQuoted text := by
  rw [← log_text_twice_iff]
  constructor
  · intro both
    exact both.1
  · intro twice
    refine ⟨twice, ?_⟩
    intro visitor name shown
    rw [find_recordStr visitor name _ shown, onText, onText, String.toList_ofList, twice]

theorem bare_token_grows :
    ¬ (observeRedactText (observeRedactText "token=abc".toList) = observeRedactText "token=abc".toList ∧
        ∀ (visitor : RedactingVisitor) (name : String), observeRule.isSecretKey name.toList = false →
          (visitor.recordStr name "token=abc").fields.find? name =
            some (name, onText observeRedactText "token=abc")) := by
  rintro ⟨twice, _⟩
  revert twice
  decide +kernel

end Missive.RedactionIdempotence
