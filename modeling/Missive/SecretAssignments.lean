import Missive.AuthCredentials

/-! `redact_secret_assignments` as a machine that reads a text once, and the
whole of `redact_text` as this machine behind the auth-scheme passes. The
source looks ahead from the first character of a key for its separator; keys,
quotes, blanks and separators are copied whether or not an assignment follows,
so the same text is written without looking ahead. -/
namespace Missive.SecretAssignments

open RustText SecretKeys TextRedaction AuthCredentials Transducer

/-- How an unquoted value ends. The log redactor stops at a delimiter; the CLI
redactor also steps over a marker left by an earlier pass and, at the start of a
value, over a scheme word and the value behind it. -/
inductive ValueRule where
  | plain
  | marked
  | schemed
  deriving DecidableEq

def skipMarked (rest : Text) : Nat :=
  if charsStartWith rest redacted then redacted.length else unquotedLength rest

def ValueRule.skip : ValueRule → Text → Nat
  | .plain => unquotedLength
  | .marked => skipMarked
  | .schemed => skipUnquotedSecretValue

inductive Quote where
  | single
  | double
  deriving DecidableEq

def Quote.char : Quote → Char
  | .single => '\x27'
  | .double => '\x22'

def Quote.of (c : Char) : Quote := if c == '\x22' then .double else .single

inductive Scan where
  | text (run : Text)
  | gap
  | value
  | quoted (quote : Quote)
  | unquoted (rule : ValueRule) (read : Text)
  | schemeGap
  deriving DecidableEq

section Machine

variable (secret : Text → Bool) (rule : ValueRule)

def textStep (run : Text) (c : Char) : Scan × Text :=
  if isKeyCharacter c then (.text (run ++ [c]), [c])
  else if !run.isEmpty && secret (normalizeKey run) then
    if isSeparator c then (.value, [c])
    else if isQuote c || isWhitespace c then (.gap, [c])
    else (.text [], [c])
  else (.text [], [c])

def scanStep : Scan → Char → Scan × Text
  | .text run, c => textStep secret run c
  | .gap, c =>
      if isWhitespace c then (.gap, [c])
      else if isSeparator c then (.value, [c])
      else textStep secret [] c
  | .value, c =>
      if isWhitespace c then (.value, [c])
      else if isQuote c then (.quoted (Quote.of c), c :: redacted)
      else if isUnquotedSecretDelimiter c then (.text [], redacted ++ [c])
      else (.unquoted rule [c], redacted)
  | .quoted quote, c => if c == quote.char then (.text [], [c]) else (.quoted quote, [])
  | .unquoted rule read, c =>
      if !isUnquotedSecretDelimiter c then (.unquoted rule (read ++ [c]), [])
      else if rule != .plain && read ++ [c] == redacted then (.text [], [])
      else if rule == .schemed && isWhitespace c && isSchemeWord read then (.schemeGap, [])
      else (.text [], [c])
  | .schemeGap, c =>
      if isWhitespace c then (.schemeGap, [])
      else if isUnquotedSecretDelimiter c then (.text [], [c])
      else (.unquoted .marked [c], [])

def assignmentMachine : Machine Scan Char Char where
  start := .text []
  step := scanStep secret rule
  finish
    | .value => redacted
    | _ => []

@[simp] theorem assignment_machine_step (scan : Scan) (c : Char) :
    (assignmentMachine secret rule).step scan c = scanStep secret rule scan c := by
  simp only [assignmentMachine]

@[simp] theorem assignment_machine_finish_text (run : Text) :
    (assignmentMachine secret rule).finish (.text run) = [] := rfl

end Machine

attribute [local simp] scanStep

/-! Which characters are which: keys, quotes, blanks, separators and delimiters
do not meet. -/

theorem key_codes (c : Char) (key : isKeyCharacter c = true) :
    isAsciiAlphanumeric c = true ∨ c = '_' ∨ c = '-' := by
  simpa [isKeyCharacter, or_assoc] using key

theorem alphanumeric_not_delimiter (c : Char) (plain : isAsciiAlphanumeric c = true) :
    isUnquotedSecretDelimiter c = false ∧ isQuote c = false ∧ isSeparator c = false := by
  have codes := alphanumeric_codes c plain
  have away : ∀ d ∈ [',', ';', '}', ']', '\x22', '\x27', '=', ':'], c ≠ d := by
    intro d listed
    rintro rfl
    have outside : ∀ e ∈ [',', ';', '}', ']', '\x22', '\x27', '=', ':'],
        isAsciiAlphanumeric e = false := absent_from (by decide)
    rw [outside c listed] at plain
    contradiction
  simp only [List.mem_cons, List.not_mem_nil, or_false, forall_eq_or_imp, forall_eq] at away
  simp [isUnquotedSecretDelimiter, isQuote, isSeparator, alphanumeric_not_whitespace c plain, away]

theorem key_not_delimiter (c : Char) (key : isKeyCharacter c = true) :
    isWhitespace c = false ∧ isUnquotedSecretDelimiter c = false ∧ isQuote c = false ∧
      isSeparator c = false := by
  rcases key_codes c key with plain | rfl | rfl
  · exact ⟨alphanumeric_not_whitespace c plain, alphanumeric_not_delimiter c plain⟩
  · decide
  · decide

theorem separator_not_key (c : Char) (separator : isSeparator c = true) :
    isKeyCharacter c = false ∧ isQuote c = false ∧ isWhitespace c = false := by
  have codes : c = '=' ∨ c = ':' := by simpa [isSeparator] using separator
  rcases codes with rfl | rfl <;> decide

theorem quote_not_key (c : Char) (quote : isQuote c = true) :
    isKeyCharacter c = false ∧ isSeparator c = false ∧ isWhitespace c = false := by
  have codes : c = '\x22' ∨ c = '\x27' := by simpa [isQuote] using quote
  rcases codes with rfl | rfl <;> decide

theorem quote_char (c : Char) (quote : isQuote c = true) : (Quote.of c).char = c := by
  have codes : c = '\x22' ∨ c = '\x27' := by simpa [isQuote] using quote
  rcases codes with rfl | rfl <;> rfl

theorem blank_not_key (c : Char) (blank : isWhitespace c = true) :
    isKeyCharacter c = false ∧ isQuote c = false ∧ isSeparator c = false := by
  refine ⟨?_, ?_, ?_⟩
  · by_contra key
    simp [(key_not_delimiter c (eq_true_of_ne_false key)).1] at blank
  · by_contra quote
    simp [(quote_not_key c (eq_true_of_ne_false quote)).2.2] at blank
  · by_contra separator
    simp [(separator_not_key c (eq_true_of_ne_false separator)).2.2] at blank

theorem delimiter_not_key (c : Char) (delimiter : isUnquotedSecretDelimiter c = true) :
    isKeyCharacter c = false := by
  by_contra key
  have other := (key_not_delimiter c (eq_true_of_ne_false key)).2.1
  rw [other] at delimiter
  contradiction

-- No key goes on across the end of a value.
def EndsKey (text : Text) (read : Nat) : Prop :=
  (text.take read).getLast?.all (fun c => !isKeyCharacter c) = true ∨
    (text.drop read).head?.all (fun c => !isKeyCharacter c) = true

theorem ends_key_behind (front text : Text) (read : Nat)
    (closed : front.getLast?.all (fun c => !isKeyCharacter c) = true) (ends : EndsKey text read) :
    EndsKey (front ++ text) (front.length + read) := by
  rcases ends with last | next
  · left
    rw [List.take_length_add_append, List.getLast?_append]
    cases final : (text.take read).getLast? with
    | none => simpa using closed
    | some c => simpa [final] using last
  · right
    rw [← List.drop_drop, List.drop_left]
    exact next

/-! What the scanner of the source does, by the parts of the text it looks at. -/

section Scanner

variable {secret : Text → Bool} {skip : Text → Nat}

theorem from_turn (previous : Option Char) (c : Char) (tail : Text) :
    redactSecretAssignmentsFrom secret skip previous (c :: tail) =
      match assignmentAt secret previous (c :: tail) with
      | none => c :: redactSecretAssignmentsFrom secret skip (some c) tail
      | some keyed =>
          let blanks := ((c :: tail).drop keyed).takeWhile isWhitespace
          let value := (c :: tail).drop (keyed + blanks.length)
          let read := keyed + blanks.length + (redactValue skip value).2
          (c :: tail).take keyed ++ blanks ++ (redactValue skip value).1 ++
            redactSecretAssignmentsFrom secret skip ((c :: tail).take read).getLast?
              ((c :: tail).drop read) := by
  rw [redactSecretAssignmentsFrom]
  split
  · rename_i found
    rw [found]
  · rename_i keyed found
    rw [found]

-- The character before the scanner matters only where a key could start.
theorem from_boundary (previous : Option Char) (rest : Text)
    (boundary : previous.all (fun c => !isKeyCharacter c) = true ∨
      rest.head?.all (fun c => !isKeyCharacter c) = true) :
    redactSecretAssignmentsFrom secret skip previous rest =
      redactSecretAssignmentsFrom secret skip none rest := by
  cases rest with
  | nil => rw [redactSecretAssignmentsFrom, redactSecretAssignmentsFrom]
  | cons c rest =>
      have same : assignmentAt secret previous (c :: rest) = assignmentAt secret none (c :: rest) := by
        rcases boundary with before | here
        · have outside : previous.any isKeyCharacter = false := by
            cases previous with
            | none => rfl
            | some d => simpa using before
          simp [assignmentAt, secretKeyEndAt, outside]
        · have outside : isKeyCharacter c = false := by simpa using here
          simp [assignmentAt, secretKeyEndAt, outside]
      rw [from_turn, from_turn, same]

theorem from_plain (previous : Option Char) (c : Char) (rest : Text)
    (outside : isKeyCharacter c = false) :
    redactSecretAssignmentsFrom secret skip previous (c :: rest) =
      c :: redactSecretAssignmentsFrom secret skip none rest := by
  have unkeyed : assignmentAt secret previous (c :: rest) = none := by
    simp [assignmentAt, secretKeyEndAt, outside]
  rw [from_turn, unkeyed]
  exact congrArg (c :: ·) (from_boundary (some c) rest (Or.inl (by simp [outside])))

-- Inside a key no other key starts.
theorem from_key_tail (before : Char) (word rest : Text) (start : isKeyCharacter before = true)
    (key : ∀ c ∈ word, isKeyCharacter c = true)
    (stop : rest.head?.all (fun c => !isKeyCharacter c) = true) :
    redactSecretAssignmentsFrom secret skip (some before) (word ++ rest) =
      word ++ redactSecretAssignmentsFrom secret skip none rest := by
  induction word generalizing before with
  | nil => exact from_boundary (some before) rest (Or.inr stop)
  | cons c word ih =>
      have inside : assignmentAt secret (some before) (c :: (word ++ rest)) = none := by
        simp [assignmentAt, secretKeyEndAt, start]
      rw [List.cons_append, from_turn, inside]
      exact congrArg (c :: ·) (ih c (key c List.mem_cons_self)
        (fun d member => key d (List.mem_cons_of_mem c member)))

theorem from_key (word rest : Text) (key : ∀ c ∈ word, isKeyCharacter c = true)
    (stop : rest.head?.all (fun c => !isKeyCharacter c) = true)
    (none' : assignmentAt secret none (word ++ rest) = none) :
    redactSecretAssignmentsFrom secret skip none (word ++ rest) =
      word ++ redactSecretAssignmentsFrom secret skip none rest := by
  cases word with
  | nil => rfl
  | cons c word =>
      rw [List.cons_append] at none' ⊢
      rw [from_turn, none']
      exact congrArg (c :: ·) (from_key_tail c word rest (key c List.mem_cons_self)
        (fun d member => key d (List.mem_cons_of_mem c member)) stop)

theorem from_found (lead blanks value : Text) (nonempty : lead ≠ [])
    (found : assignmentAt secret none (lead ++ blanks ++ value) = some lead.length)
    (blank : ∀ c ∈ blanks, isWhitespace c = true)
    (stop : value.head?.all (fun c => !isWhitespace c) = true)
    (closed : (lead ++ blanks).getLast?.all (fun c => !isKeyCharacter c) = true)
    (ends : EndsKey value (redactValue skip value).2) :
    redactSecretAssignmentsFrom secret skip none (lead ++ blanks ++ value) =
      lead ++ blanks ++ (redactValue skip value).1 ++
        redactSecretAssignmentsFrom secret skip none (value.drop (redactValue skip value).2) := by
  obtain ⟨c, tail, split⟩ := List.exists_cons_of_ne_nil
    (show lead ++ blanks ++ value ≠ [] by simp [nonempty])
  have measured : (lead ++ blanks).length = lead.length + blanks.length := List.length_append
  have between : (lead ++ blanks ++ value).drop lead.length = blanks ++ value := by
    rw [List.append_assoc, List.drop_left]
  have behind : (lead ++ blanks ++ value).drop (lead.length + blanks.length) = value := by
    rw [← measured, List.drop_left]
  have front : (lead ++ blanks ++ value).take lead.length = lead := by
    rw [List.append_assoc, List.take_left]
  have boundary := ends_key_behind (lead ++ blanks) value _ closed ends
  rw [EndsKey, measured, ← List.drop_drop, behind] at boundary
  rw [split, from_turn, ← split, found]
  simp only [between, takeWhile_stretch isWhitespace blanks value blank stop, behind, front]
  rw [← List.drop_drop, behind, from_boundary _ _ boundary]

-- The part of a text that the search for a separator looks at.
structure KeyParts (word quote blanks tail : Text) : Prop where
  nonempty : word ≠ []
  key : ∀ c ∈ word, isKeyCharacter c = true
  quoted : (quote = [] ∧ (blanks ++ tail).head?.all (fun c => !isQuote c) = true) ∨
    ∃ c, quote = [c] ∧ isQuote c = true
  blank : ∀ c ∈ blanks, isWhitespace c = true
  stop : tail.head?.all (fun c => !isWhitespace c) = true
  bounded : (quote ++ blanks ++ tail).head?.all (fun c => !isKeyCharacter c) = true

theorem key_parts (text : Text) (start : text.head?.any isKeyCharacter = true) :
    ∃ word quote blanks tail, text = word ++ (quote ++ blanks ++ tail) ∧
      KeyParts word quote blanks tail := by
  obtain ⟨word, rest, split, key, bounded⟩ := stretch_parts isKeyCharacter text
  have nonempty : word ≠ [] := by
    rintro rfl
    rw [List.nil_append] at split
    subst split
    cases text with
    | nil => simp at start
    | cons c _ => simp_all
  have marked : ∃ quote after, rest = quote ++ after ∧
      ((quote = [] ∧ after.head?.all (fun c => !isQuote c) = true) ∨
        ∃ c, quote = [c] ∧ isQuote c = true) := by
    cases rest with
    | nil => exact ⟨[], [], rfl, Or.inl ⟨rfl, rfl⟩⟩
    | cons c after =>
        by_cases quote : isQuote c = true
        · exact ⟨[c], after, rfl, Or.inr ⟨c, rfl, quote⟩⟩
        · exact ⟨[], c :: after, rfl, Or.inl ⟨rfl, by simpa using quote⟩⟩
  obtain ⟨quote, after, rfl, quoted⟩ := marked
  obtain ⟨blanks, tail, rfl, blank, stop⟩ := stretch_parts isWhitespace after
  refine ⟨word, quote, blanks, tail, by rw [split, List.append_assoc], ?_⟩
  exact ⟨nonempty, key, quoted, blank, stop, by rwa [List.append_assoc]⟩

theorem assignment_at_parts (word quote blanks tail : Text)
    (parts : KeyParts word quote blanks tail) :
    assignmentAt secret none (word ++ (quote ++ blanks ++ tail)) =
      if secret (normalizeKey word) && tail.head?.any isSeparator then
        some (word ++ quote ++ blanks).length.succ
      else none := by
  have taken := takeWhile_stretch isKeyCharacter word (quote ++ blanks ++ tail) parts.key
    parts.bounded
  have head : (word ++ (quote ++ blanks ++ tail)).head?.any isKeyCharacter = true := by
    obtain ⟨c, rest, rfl⟩ := List.exists_cons_of_ne_nil parts.nonempty
    simp [parts.key c]
  have keyed : secretKeyEndAt secret none (word ++ (quote ++ blanks ++ tail)) =
      if secret (normalizeKey word) then some word.length else none := by
    simp only [secretKeyEndAt, Option.any_none, head, taken, Bool.not_true, Bool.false_eq_true,
      if_false]
  cases hit : secret (normalizeKey word) with
  | false =>
      rw [assignmentAt, keyed, hit]
      rfl
  | true =>
      have quotedEnd : (if ((word ++ (quote ++ blanks ++ tail)).drop word.length).head?.any isQuote
          then word.length + 1 else word.length) = (word ++ quote).length := by
        rw [List.drop_left]
        rcases parts.quoted with ⟨rfl, unquoted⟩ | ⟨c, rfl, quote⟩
        · have other : (blanks ++ tail).head?.any isQuote = false := by
            cases first : (blanks ++ tail).head? <;> simp_all
          rw [List.nil_append, other, List.append_nil]
          rfl
        · simp [quote]
      have rest : (word ++ (quote ++ blanks ++ tail)).drop (word ++ quote).length =
          blanks ++ tail := by
        rw [show word ++ (quote ++ blanks ++ tail) = word ++ quote ++ (blanks ++ tail) by simp,
          List.drop_left]
      have last : (word ++ (quote ++ blanks ++ tail)).drop
          ((word ++ quote).length + blanks.length) = tail := by
        rw [← List.drop_drop, rest, List.drop_left]
      simp only [assignmentAt, keyed, hit, if_true, Option.bind_some, quotedEnd, rest,
        takeWhile_stretch isWhitespace blanks tail parts.blank parts.stop, last, Bool.true_and]
      rw [show (word ++ quote ++ blanks).length = (word ++ quote).length + blanks.length from
        List.length_append]

end Scanner

/-! How far an unquoted value reaches: its first stretch without delimiters, and
what may follow that stretch in the CLI redactor. -/

theorem unquoted_length_stretch (word rest : Text)
    (inside : ∀ c ∈ word, isUnquotedSecretDelimiter c = false)
    (stop : rest.head?.all isUnquotedSecretDelimiter = true) :
    unquotedLength (word ++ rest) = word.length := by
  rw [unquotedLength, takeWhile_stretch]
  · intro c member
    simp [inside c member]
  · simpa using stop

theorem starts_redacted (word rest : Text) (d : Char)
    (inside : ∀ c ∈ word, isUnquotedSecretDelimiter c = false)
    (stop : isUnquotedSecretDelimiter d = true) :
    charsStartWith (word ++ d :: rest) redacted = (word ++ [d] == redacted) := by
  rw [Bool.eq_iff_iff, charsStartWith, List.isPrefixOf_iff_prefix, beq_iff_eq]
  have marker : redacted = "[REDACTED".toList ++ [']'] := rfl
  have aligned := stop_aligned isUnquotedSecretDelimiter "[REDACTED".toList word rest ']' d
    (absent_from (by decide)) inside (by decide) stop
  rw [marker, aligned, List.append_singleton_inj]
  exact ⟨fun ⟨left, right⟩ => ⟨left.symm, right.symm⟩, fun ⟨left, right⟩ => ⟨left.symm, right.symm⟩⟩

set_option maxRecDepth 4000 in
theorem lowercase_delimiter (c : Char) :
    isUnquotedSecretDelimiter (toAsciiLowercase c) = isUnquotedSecretDelimiter c :=
  lowercase_keeps isUnquotedSecretDelimiter (by decide) c

theorem scheme_starts (scheme word rest : Text) (d : Char) (listed : scheme ∈ authSchemes)
    (inside : ∀ c ∈ word, isUnquotedSecretDelimiter c = false)
    (stop : isUnquotedSecretDelimiter d = true) :
    (charsStartWithAsciiCaseInsensitive (word ++ d :: rest) scheme &&
        ((word ++ d :: rest).drop scheme.length).head?.any isWhitespace) =
      (isWhitespace d && lowercase scheme == lowercase word) := by
  have fixed : ∀ x, isUnquotedSecretDelimiter x = true → toAsciiLowercase x = x := by
    intro x delimiter
    apply lowercase_fixed
    by_contra letter
    rw [(alphanumeric_not_delimiter x (eq_true_of_ne_false letter)).1] at delimiter
    contradiction
  have wordFree : ∀ c ∈ lowercase word, isUnquotedSecretDelimiter c = false := by
    intro c member
    obtain ⟨original, present, rfl⟩ := List.mem_map.mp member
    rw [lowercase_delimiter]
    exact inside original present
  have schemeFree : ∀ c ∈ lowercase scheme, isUnquotedSecretDelimiter c = false := by
    have checked : ∀ scheme ∈ authSchemes,
        (lowercase scheme).any isUnquotedSecretDelimiter = false := by decide
    exact absent_from (checked scheme listed)
  have lowered : lowercase (word ++ d :: rest) = lowercase word ++ d :: lowercase rest := by
    rw [lowercase_append]
    simp [lowercase, fixed d stop]
  rw [Bool.eq_iff_iff]
  simp only [charsStartWithAsciiCaseInsensitive, Bool.and_eq_true, List.isPrefixOf_iff_prefix,
    beq_iff_eq, lowered]
  constructor
  · rintro ⟨starts, follows⟩
    obtain ⟨x, r, dropped, blank⟩ : ∃ x r, (word ++ d :: rest).drop scheme.length = x :: r ∧
        isWhitespace x = true := by
      cases dropped : (word ++ d :: rest).drop scheme.length with
      | nil => simp [dropped] at follows
      | cons x r => exact ⟨x, r, rfl, by simpa [dropped] using follows⟩
    have delimiter : isUnquotedSecretDelimiter x = true := by
      simp [isUnquotedSecretDelimiter, blank]
    have whole : lowercase word ++ d :: lowercase rest = lowercase scheme ++ x :: lowercase r := by
      have front := List.prefix_iff_eq_take.mp starts
      have back : (lowercase word ++ d :: lowercase rest).drop scheme.length =
          x :: lowercase r := by
        rw [← lowered, lowercase, ← List.map_drop, dropped, List.map_cons, fixed x delimiter]
        rfl
      rw [length_lowercase] at front
      rw [← List.take_append_drop scheme.length (lowercase word ++ d :: lowercase rest), ← front,
        back]
    have aligned := (stop_aligned isUnquotedSecretDelimiter (lowercase scheme) (lowercase word)
      (lowercase rest) x d schemeFree wordFree delimiter stop).mp (by simp [whole])
    exact ⟨aligned.2 ▸ blank, aligned.1⟩
  · rintro ⟨blank, same⟩
    have measured : scheme.length = word.length := by
      have lengths := congrArg List.length same
      simpa using lengths
    rw [measured, List.drop_left, same]
    exact ⟨List.prefix_append _ _, by simpa using blank⟩

theorem scheme_len_at (word rest : Text) (d : Char)
    (inside : ∀ c ∈ word, isUnquotedSecretDelimiter c = false)
    (stop : isUnquotedSecretDelimiter d = true) :
    authSchemeLenAt (word ++ d :: rest) =
      if isWhitespace d && isSchemeWord word then some word.length else none := by
  have test := fun scheme listed => scheme_starts scheme word rest d listed inside stop
  unfold authSchemeLenAt
  split
  · rename_i holds
    obtain ⟨blank, listed⟩ := Bool.and_eq_true_iff.mp holds
    obtain ⟨scheme, member, same⟩ := List.any_eq_true.mp listed
    cases found : authSchemes.find? _ with
    | none =>
        have missed := List.find?_eq_none.mp found scheme member
        rw [test scheme member, blank, same] at missed
        contradiction
    | some other =>
        have hit := List.find?_some found
        rw [test other (List.mem_of_find?_eq_some found)] at hit
        have lengths := congrArg List.length (beq_iff_eq.mp (Bool.and_eq_true_iff.mp hit).2)
        simpa using lengths
  · rename_i fails
    rw [Option.map_eq_none_iff, List.find?_eq_none]
    intro scheme member hit
    rw [test scheme member] at hit
    obtain ⟨blank, same⟩ := Bool.and_eq_true_iff.mp hit
    exact fails (Bool.and_eq_true_iff.mpr ⟨blank, List.any_eq_true.mpr ⟨scheme, member, same⟩⟩)

-- A stretch that ends the text is skipped whole, under every rule.
theorem skip_to_end (rule : ValueRule) (word : Text)
    (inside : ∀ c ∈ word, isUnquotedSecretDelimiter c = false) : rule.skip word = word.length := by
  have plain : unquotedLength word = word.length := by
    simpa using unquoted_length_stretch word [] inside rfl
  have unmarked : charsStartWith word redacted = false := by
    by_contra marked
    have starts := List.isPrefixOf_iff_prefix.mp (eq_true_of_ne_false marked)
    have delimiter := inside ']' (starts.subset (by decide))
    contradiction
  have unschemed : authSchemeLenAt word = none := by
    rw [authSchemeLenAt, Option.map_eq_none_iff, List.find?_eq_none]
    intro scheme _ hit
    obtain ⟨c, member, blank⟩ : ∃ c ∈ word, isWhitespace c = true := by
      have follows := (Bool.and_eq_true_iff.mp hit).2
      cases dropped : word.drop scheme.length with
      | nil => simp [dropped] at follows
      | cons c _ =>
          exact ⟨c, List.mem_of_mem_drop (dropped ▸ List.mem_cons_self),
            by simpa [dropped] using follows⟩
    have outside := inside c member
    simp [isUnquotedSecretDelimiter, blank] at outside
  cases rule <;>
    simp [ValueRule.skip, skipMarked, skipUnquotedSecretValue, plain, unmarked, unschemed]

theorem scheme_parts (word rest : Text) (d : Char) (blank : isWhitespace d = true) :
    word ++ d :: rest =
      word ++ (d :: rest).takeWhile isWhitespace ++ rest.dropWhile isWhitespace := by
  rw [List.takeWhile_cons_of_pos blank, List.append_assoc, List.cons_append,
    List.takeWhile_append_dropWhile]

theorem skip_behind_scheme (word rest : Text) (d : Char)
    (inside : ∀ c ∈ word, isUnquotedSecretDelimiter c = false)
    (stop : isUnquotedSecretDelimiter d = true)
    (scheme : (isWhitespace d && isSchemeWord word) = true) (other : word ++ [d] ≠ redacted) :
    ValueRule.skip .schemed (word ++ d :: rest) =
      (word ++ (d :: rest).takeWhile isWhitespace).length +
        skipMarked (rest.dropWhile isWhitespace) := by
  have unmarked : charsStartWith (word ++ d :: rest) redacted = false := by
    rw [starts_redacted word rest d inside stop]
    simpa using other
  have schemed := scheme_len_at word rest d inside stop
  rw [if_pos scheme] at schemed
  have behind : (word ++ d :: rest).drop
      (word.length + ((d :: rest).takeWhile isWhitespace).length) =
      rest.dropWhile isWhitespace := by
    rw [scheme_parts word rest d (Bool.and_eq_true_iff.mp scheme).1, ← List.length_append,
      List.drop_left]
  simp only [ValueRule.skip, skipUnquotedSecretValue, unmarked, schemed, List.drop_left, behind,
    Bool.false_eq_true, if_false, skipMarked, List.length_append]
  split <;> rfl

-- The three ways a stretch can end at a delimiter.
theorem skip_stretch (rule : ValueRule) (word rest : Text) (d : Char)
    (inside : ∀ c ∈ word, isUnquotedSecretDelimiter c = false)
    (stop : isUnquotedSecretDelimiter d = true) :
    (word ++ d :: rest).drop (rule.skip (word ++ d :: rest)) =
      if rule != .plain && word ++ [d] == redacted then rest
      else if rule == .schemed && isWhitespace d && isSchemeWord word then
        (rest.dropWhile isWhitespace).drop (skipMarked (rest.dropWhile isWhitespace))
      else d :: rest := by
  have plain : unquotedLength (word ++ d :: rest) = word.length :=
    unquoted_length_stretch word _ inside (by simpa using stop)
  have marked := starts_redacted word rest d inside stop
  have schemed := scheme_len_at word rest d inside stop
  cases whole : (word ++ [d] == redacted) with
  | true =>
      have same := beq_iff_eq.mp whole
      have passed : (word ++ d :: rest).drop redacted.length = rest := by
        rw [← same, show word ++ d :: rest = word ++ [d] ++ rest by simp, List.drop_left]
      rw [whole] at marked
      cases rule with
      | plain => simp [ValueRule.skip, plain]
      | marked => simp [ValueRule.skip, skipMarked, marked, passed]
      | schemed => simp [ValueRule.skip, skipUnquotedSecretValue, marked, passed]
  | false =>
      rw [whole] at marked
      cases rule with
      | plain => simp [ValueRule.skip, plain]
      | marked => simp [ValueRule.skip, skipMarked, marked, plain]
      | schemed =>
          by_cases scheme : (isWhitespace d && isSchemeWord word) = true
          · have parts : word ++ d :: rest =
                word ++ (d :: rest).takeWhile isWhitespace ++ rest.dropWhile isWhitespace :=
              scheme_parts word rest d (Bool.and_eq_true_iff.mp scheme).1
            rw [skip_behind_scheme word rest d inside stop scheme (by simpa using whole), parts,
              ← List.drop_drop, List.drop_left]
            simp [scheme]
          · rw [if_neg scheme] at schemed
            simp only [ValueRule.skip, skipUnquotedSecretValue, marked, schemed, plain,
              Bool.false_eq_true, if_false, List.drop_left]
            simp [scheme]

theorem skip_ends_key_if (rule : ValueRule) (text : Text)
    (nested : rule = .schemed → ∀ text, EndsKey text (skipMarked text)) :
    EndsKey text (rule.skip text) := by
  obtain ⟨word, rest, rfl, free, stop⟩ :=
    stretch_parts (fun c => !isUnquotedSecretDelimiter c) text
  have inside : ∀ c ∈ word, isUnquotedSecretDelimiter c = false := by simpa using free
  cases rest with
  | nil =>
      right
      rw [List.append_nil, skip_to_end rule word inside, List.drop_length]
      rfl
  | cons d rest =>
      have delimiter : isUnquotedSecretDelimiter d = true := by simpa using stop
      have dropped := skip_stretch rule word rest d inside delimiter
      split at dropped
      · rename_i whole
        left
        obtain ⟨other, same⟩ := Bool.and_eq_true_iff.mp whole
        have marked : charsStartWith (word ++ d :: rest) redacted = true := by
          rw [starts_redacted word rest d inside delimiter, same]
        have skipped : rule.skip (word ++ d :: rest) = redacted.length := by
          cases rule with
          | plain => contradiction
          | marked => simp [ValueRule.skip, skipMarked, marked]
          | schemed => simp [ValueRule.skip, skipUnquotedSecretValue, marked]
        rw [skipped, ← beq_iff_eq.mp same, show word ++ d :: rest = word ++ [d] ++ rest by simp,
          List.take_left]
        simp [delimiter_not_key d delimiter]
      · rename_i fails
        split at dropped
        · rename_i scheme
          simp only [Bool.and_eq_true, beq_iff_eq] at scheme
          obtain ⟨⟨rfl, blank⟩, named⟩ := scheme
          rw [skip_behind_scheme word rest d inside delimiter (by simp [blank, named])
            (by simpa using fails), scheme_parts word rest d blank]
          apply ends_key_behind
          · rw [List.getLast?_append, List.takeWhile_cons_of_pos blank]
            obtain ⟨c, last⟩ : ∃ c, (d :: rest.takeWhile isWhitespace).getLast? = some c := by
              exact Option.isSome_iff_exists.mp (by simp)
            have member : c ∈ (d :: rest).takeWhile isWhitespace := by
              rw [List.takeWhile_cons_of_pos blank]
              exact List.mem_of_getLast? last
            have outside := (blank_not_key c (List.all_eq_true.mp List.all_takeWhile c member)).1
            simp [last, outside]
          · exact nested rfl _
        · right
          rw [dropped]
          simp [delimiter_not_key d delimiter]

theorem skip_ends_key (rule : ValueRule) (text : Text) : EndsKey text (rule.skip text) :=
  skip_ends_key_if rule text (fun _ text => skip_ends_key_if .marked text (by simp))

theorem value_ends_key (rule : ValueRule) (value : Text) :
    EndsKey value (redactValue rule.skip value).2 := by
  cases value with
  | nil => exact Or.inr (by simp)
  | cons c rest =>
      by_cases quote : isQuote c = true
      · simp only [redactValue, quote, if_true]
        cases closing : rest.drop (rest.takeWhile (· != c)).length with
        | nil => exact Or.inr (by simp [closing])
        | cons close after =>
            left
            have quoted : isQuote close = true := by
              have head := List.head?_dropWhile_not (· != c) rest
              rw [← drop_takeWhile_length, closing] at head
              have same : close = c := by simpa using head
              rw [same]
              exact quote
            have taken : (c :: rest).take ((rest.takeWhile (· != c)).length + 2) =
                c :: rest.takeWhile (· != c) ++ [close] := by
              have split : rest.takeWhile (· != c) ++ close :: after = rest := by
                rw [← closing, drop_takeWhile_length, List.takeWhile_append_dropWhile]
              calc (c :: rest).take ((rest.takeWhile (· != c)).length + 2)
                  = c :: (rest.takeWhile (· != c) ++ close :: after).take
                      ((rest.takeWhile (· != c)).length + 1) := by rw [split]; rfl
                _ = c :: rest.takeWhile (· != c) ++ [close] := by
                    rw [List.take_length_add_append]
                    rfl
            rw [taken, List.getLast?_concat]
            simp [(quote_not_key close quoted).1]
      · have read : (redactValue rule.skip (c :: rest)).2 = rule.skip (c :: rest) := by
          simp [redactValue, quote]
        rw [read]
        exact skip_ends_key rule (c :: rest)

theorem skip_at_delimiter (rule : ValueRule) (c : Char) (rest : Text)
    (stop : isUnquotedSecretDelimiter c = true) :
    (c :: rest).drop (rule.skip (c :: rest)) = c :: rest := by
  have skipped := skip_stretch rule [] rest c (by simp) stop
  have short : ([] ++ [c] == redacted) = false := by
    rw [beq_eq_false_iff_ne]
    intro same
    have lengths : ([] ++ [c]).length = 10 := congrArg List.length same
    simp at lengths
  have unnamed : isSchemeWord [] = false := by decide
  rw [short, unnamed, Bool.and_false, Bool.and_false] at skipped
  exact skipped

/-! The machine, state by state. -/

section Reading

variable (secret : Text → Bool) (rule : ValueRule)

theorem key_read (run word : Text) (key : ∀ c ∈ word, isKeyCharacter c = true) :
    (assignmentMachine secret rule).reach (.text run) word = .text (run ++ word) ∧
      (assignmentMachine secret rule).emit (.text run) word = word := by
  induction word generalizing run with
  | nil => simp
  | cons c word ih =>
      have head := key c List.mem_cons_self
      have tail := ih (run ++ [c]) (fun d member => key d (List.mem_cons_of_mem c member))
      simpa [textStep, head] using tail

theorem gap_read (blanks : Text) (blank : ∀ c ∈ blanks, isWhitespace c = true) :
    (assignmentMachine secret rule).reach .gap blanks = .gap ∧
      (assignmentMachine secret rule).emit .gap blanks = blanks := by
  induction blanks with
  | nil => exact ⟨rfl, rfl⟩
  | cons c blanks ih =>
      have head := blank c List.mem_cons_self
      have tail := ih (fun d member => blank d (List.mem_cons_of_mem c member))
      simpa [head] using tail

theorem value_blanks_read (blanks : Text) (blank : ∀ c ∈ blanks, isWhitespace c = true) :
    (assignmentMachine secret rule).reach .value blanks = .value ∧
      (assignmentMachine secret rule).emit .value blanks = blanks := by
  induction blanks with
  | nil => exact ⟨rfl, rfl⟩
  | cons c blanks ih =>
      have head := blank c List.mem_cons_self
      have tail := ih (fun d member => blank d (List.mem_cons_of_mem c member))
      simpa [head] using tail

-- Without a key before it, a character outside keys is copied.
theorem plain_read (c : Char) (rest : Text) (outside : isKeyCharacter c = false) :
    (assignmentMachine secret rule).runFrom (.text []) (c :: rest) =
      c :: (assignmentMachine secret rule).runFrom (.text []) rest := by
  simp [textStep, outside]

theorem gap_left (rest : Text) (stop : rest.head?.all (fun c => !isWhitespace c) = true)
    (missing : rest.head?.any isSeparator = false) :
    (assignmentMachine secret rule).runFrom .gap rest =
      (assignmentMachine secret rule).runFrom (.text []) rest := by
  cases rest with
  | nil => rfl
  | cons c rest =>
      have blank : isWhitespace c = false := by simpa using stop
      have separator : isSeparator c = false := by simpa using missing
      simp [blank, separator]

theorem quoted_read (quote : Quote) (rest : Text) :
    (assignmentMachine secret rule).runFrom (.quoted quote) rest =
      match rest.drop (rest.takeWhile (· != quote.char)).length with
      | [] => []
      | close :: after => close :: (assignmentMachine secret rule).runFrom (.text []) after := by
  induction rest with
  | nil => rfl
  | cons c rest ih =>
      by_cases closed : c = quote.char
      · simp [closed]
      · simpa [closed] using ih

theorem unquoted_read (rule' : ValueRule) (word rest : Text)
    (inside : ∀ c ∈ word, isUnquotedSecretDelimiter c = false)
    (scheme : rule' = .schemed → ∀ rest, (assignmentMachine secret rule).runFrom .schemeGap rest =
      (assignmentMachine secret rule).runFrom (.text [])
        ((rest.dropWhile isWhitespace).drop (skipMarked (rest.dropWhile isWhitespace)))) :
    (assignmentMachine secret rule).runFrom (.unquoted rule' word) rest =
      (assignmentMachine secret rule).runFrom (.text [])
        ((word ++ rest).drop (rule'.skip (word ++ rest))) := by
  induction rest generalizing word with
  | nil =>
      rw [List.append_nil, skip_to_end rule' word inside, List.drop_length]
      rfl
  | cons d rest ih =>
      by_cases stop : isUnquotedSecretDelimiter d = true
      · rw [skip_stretch rule' word rest d inside stop, Machine.runFrom_cons,
          assignment_machine_step]
        simp only [scanStep, stop, Bool.not_true, Bool.false_eq_true, if_false]
        split
        · rfl
        · split
          · rename_i schemed
            simp only [Bool.and_eq_true, beq_iff_eq] at schemed
            exact scheme schemed.1.1 rest
          · exact (plain_read secret rule d rest (delimiter_not_key d stop)).symm
      · have open' : isUnquotedSecretDelimiter d = false := by simpa using stop
        have grown : ∀ c ∈ word ++ [d], isUnquotedSecretDelimiter c = false := by
          intro c member
          rcases List.mem_append.mp member with old | new
          · exact inside c old
          · rw [List.mem_singleton.mp new]
            exact open'
        have next := ih (word ++ [d]) grown
        simpa [open'] using next

theorem scheme_gap_read (rest : Text) :
    (assignmentMachine secret rule).runFrom .schemeGap rest =
      (assignmentMachine secret rule).runFrom (.text [])
        ((rest.dropWhile isWhitespace).drop (skipMarked (rest.dropWhile isWhitespace))) := by
  induction rest with
  | nil => rfl
  | cons c rest ih =>
      by_cases blank : isWhitespace c = true
      · simpa [blank] using ih
      · by_cases stop : isUnquotedSecretDelimiter c = true
        · have skipped : (c :: rest).drop (skipMarked (c :: rest)) = c :: rest :=
            skip_at_delimiter .marked c rest stop
          rw [List.dropWhile_cons_of_neg blank, skipped,
            plain_read secret rule c rest (delimiter_not_key c stop)]
          simp [blank, stop]
        · have open' : isUnquotedSecretDelimiter c = false := by simpa using stop
          have read := unquoted_read secret rule .marked [c] rest (by simpa using open') (by simp)
          rw [List.dropWhile_cons_of_neg blank]
          simpa [blank, open', ValueRule.skip] using read

/-- The machine reads a value as the source does and returns to plain text where
the source resumes its scan. -/
theorem value_read (value : Text) (stop : value.head?.all (fun c => !isWhitespace c) = true) :
    (assignmentMachine secret rule).runFrom .value value =
      (redactValue rule.skip value).1 ++
        (assignmentMachine secret rule).runFrom (.text [])
          (value.drop (redactValue rule.skip value).2) := by
  cases value with
  | nil =>
      have empty : rule.skip [] = 0 := skip_to_end rule [] (by simp)
      simp [redactValue, empty]
      rfl
  | cons c rest =>
      have blank : isWhitespace c = false := by simpa using stop
      by_cases quote : isQuote c = true
      · have opened : (assignmentMachine secret rule).runFrom .value (c :: rest) =
            c :: redacted ++ (assignmentMachine secret rule).runFrom (.quoted (Quote.of c)) rest := by
          simp [blank, quote]
        rw [opened, quoted_read, quote_char c quote]
        simp only [redactValue, quote, if_true]
        cases closing : rest.drop (rest.takeWhile (· != c)).length with
        | nil => simp [closing]
        | cons close after =>
            have behind : rest.drop ((rest.takeWhile (· != c)).length + 1) = after := by
              rw [← List.drop_drop, closing]
              rfl
            simp [behind]
      · have written : (redactValue rule.skip (c :: rest)).1 = redacted := by
          simp [redactValue, quote]
        have read : (redactValue rule.skip (c :: rest)).2 = rule.skip (c :: rest) := by
          simp [redactValue, quote]
        rw [written, read]
        by_cases stop : isUnquotedSecretDelimiter c = true
        · rw [skip_at_delimiter rule c rest stop,
            plain_read secret rule c rest (delimiter_not_key c stop)]
          simp [blank, quote, stop]
        · have open' : isUnquotedSecretDelimiter c = false := by simpa using stop
          have value := unquoted_read secret rule rule [c] rest (by simpa using open')
            (fun _ => scheme_gap_read secret rule)
          simpa [blank, quote, open'] using value

theorem plain_stretch_read (word rest : Text) (outside : ∀ c ∈ word, isKeyCharacter c = false) :
    (assignmentMachine secret rule).runFrom (.text []) (word ++ rest) =
      word ++ (assignmentMachine secret rule).runFrom (.text []) rest := by
  induction word with
  | nil => rfl
  | cons c word ih =>
      rw [List.cons_append, plain_read secret rule c _ (outside c List.mem_cons_self),
        ih (fun d member => outside d (List.mem_cons_of_mem c member)), List.cons_append]

theorem key_parts_plain (word quote blanks tail : Text) (parts : KeyParts word quote blanks tail) :
    ∀ c ∈ quote ++ blanks, isKeyCharacter c = false := by
  intro c member
  rcases List.mem_append.mp member with left | right
  · rcases parts.quoted with ⟨rfl, _⟩ | ⟨q, rfl, quote⟩
    · simp at left
    · rw [List.mem_singleton.mp left]
      exact (quote_not_key q quote).1
  · exact (blank_not_key c (parts.blank c right)).1

-- A quote or a blank behind a secret key opens the gap before a separator.
theorem gap_entered (word quote blanks tail : Text) (parts : KeyParts word quote blanks tail)
    (hit : secret (normalizeKey word) = true) (opened : quote ++ blanks ≠ []) :
    (assignmentMachine secret rule).reach (.text word) (quote ++ blanks) = .gap ∧
      (assignmentMachine secret rule).emit (.text word) (quote ++ blanks) = quote ++ blanks := by
  have enter : ∀ c, isQuote c = true ∨ isWhitespace c = true →
      scanStep secret rule (.text word) c = (.gap, [c]) := by
    intro c kind
    have other : isKeyCharacter c = false ∧ isSeparator c = false := by
      rcases kind with quote | blank
      · exact ⟨(quote_not_key c quote).1, (quote_not_key c quote).2.1⟩
      · exact ⟨(blank_not_key c blank).1, (blank_not_key c blank).2.2⟩
    simp [textStep, other, parts.nonempty, hit, kind]
  rcases parts.quoted with ⟨rfl, _⟩ | ⟨c, rfl, quote⟩
  · cases blanks with
    | nil => contradiction
    | cons c blanks =>
        have tail := gap_read secret rule blanks
          (fun d member => parts.blank d (List.mem_cons_of_mem c member))
        have first := enter c (Or.inr (parts.blank c List.mem_cons_self))
        simpa [first, -scanStep] using tail
  · have tail := gap_read secret rule blanks parts.blank
    simpa [enter c (Or.inl quote), -scanStep] using tail

-- A key that is not secret, or that no separator follows, is copied.
theorem key_left (word quote blanks tail : Text) (parts : KeyParts word quote blanks tail)
    (missing : (secret (normalizeKey word) && tail.head?.any isSeparator) = false) :
    (assignmentMachine secret rule).runFrom (.text word) (quote ++ blanks ++ tail) =
      (assignmentMachine secret rule).runFrom (.text []) (quote ++ blanks ++ tail) := by
  cases hit : secret (normalizeKey word) with
  | false =>
      have bounded := parts.bounded
      cases shown : quote ++ blanks ++ tail with
      | nil => rfl
      | cons d rest =>
          rw [shown] at bounded
          have outside : isKeyCharacter d = false := by simpa using bounded
          simp [textStep, outside, hit]
  | true =>
      have unseparated : tail.head?.any isSeparator = false := by simpa [hit] using missing
      by_cases opened : quote ++ blanks = []
      · rw [opened, List.nil_append]
        obtain ⟨rfl, rfl⟩ := List.append_eq_nil_iff.mp opened
        cases tail with
        | nil => rfl
        | cons d rest =>
            have blank : isWhitespace d = false := by simpa using parts.stop
            have separator : isSeparator d = false := by simpa using unseparated
            have outside : isKeyCharacter d = false := by simpa using parts.bounded
            have quote : isQuote d = false := by simpa using parts.quoted
            simp [textStep, blank, separator, outside, quote]
      · obtain ⟨reached, written⟩ := gap_entered secret rule word quote blanks tail parts hit opened
        rw [Machine.runFrom_append, reached, written,
          gap_left secret rule tail parts.stop unseparated,
          plain_stretch_read secret rule _ tail (key_parts_plain word quote blanks tail parts)]

-- A secret key and its separator are copied, and a value is expected.
theorem key_found (word quote blanks : Text) (separator : Char) (tail : Text)
    (parts : KeyParts word quote blanks (separator :: tail))
    (hit : secret (normalizeKey word) = true) (sep : isSeparator separator = true) :
    (assignmentMachine secret rule).runFrom (.text word) (quote ++ blanks ++ separator :: tail) =
      quote ++ blanks ++ [separator] ++ (assignmentMachine secret rule).runFrom .value tail := by
  have other := separator_not_key separator sep
  by_cases opened : quote ++ blanks = []
  · simp [opened, textStep, other, sep, parts.nonempty, hit]
  · obtain ⟨reached, written⟩ := gap_entered secret rule word quote blanks _ parts hit opened
    rw [Machine.runFrom_append, reached, written]
    simp [other, sep]

theorem assignment_machine_from (rest : Text) :
    (assignmentMachine secret rule).runFrom (.text []) rest =
      redactSecretAssignmentsFrom secret rule.skip none rest := by
  induction measured : rest.length using Nat.strongRecOn generalizing rest with
  | _ size ih =>
      cases rest with
      | nil =>
          rw [redactSecretAssignmentsFrom]
          rfl
      | cons c rest =>
          by_cases start : isKeyCharacter c = true
          · obtain ⟨word, quote, blanks, tail, split, parts⟩ := key_parts (c :: rest) (by simpa using start)
            have shorter : (quote ++ blanks ++ tail).length < size := by
              have lengths := congrArg List.length split
              have positive := List.length_pos_iff.mpr parts.nonempty
              rw [measured, List.length_append] at lengths
              omega
            obtain ⟨reached, written⟩ := key_read secret rule [] word parts.key
            have found := @assignment_at_parts secret word quote blanks tail parts
            rw [split, Machine.runFrom_append, reached, written, List.nil_append]
            cases hit : (secret (normalizeKey word) && tail.head?.any isSeparator) with
            | false =>
                rw [hit, if_neg (by simp)] at found
                rw [key_left secret rule word quote blanks tail parts hit, ih _ shorter _ rfl,
                  from_key word _ parts.key parts.bounded found]
            | true =>
                obtain ⟨secretKey, separated⟩ := Bool.and_eq_true_iff.mp hit
                obtain ⟨separator, after, rfl, sep⟩ : ∃ separator after, tail = separator :: after ∧
                    isSeparator separator = true := by
                  cases tail with
                  | nil => simp at separated
                  | cons separator after => exact ⟨separator, after, rfl, by simpa using separated⟩
                obtain ⟨gap, value, rfl, blank, stop⟩ := stretch_parts isWhitespace after
                rw [hit, if_pos rfl] at found
                have lead : word ++ (quote ++ blanks ++ separator :: (gap ++ value)) =
                    (word ++ quote ++ blanks ++ [separator]) ++ gap ++ value := by simp
                have closed : (word ++ quote ++ blanks ++ [separator] ++ gap).getLast?.all
                    (fun c => !isKeyCharacter c) = true := by
                  rw [List.getLast?_append]
                  cases last : gap.getLast? with
                  | none => simp [(separator_not_key separator sep).1]
                  | some d => simp [(blank_not_key d (blank d (List.mem_of_getLast? last))).1]
                have less : (value.drop (redactValue rule.skip value).2).length < size := by
                  simp only [List.length_append, List.length_cons] at shorter
                  rw [List.length_drop]
                  omega
                obtain ⟨gapReached, gapWritten⟩ := value_blanks_read secret rule gap blank
                rw [lead] at found ⊢
                rw [key_found secret rule word quote blanks separator _ parts secretKey sep,
                  Machine.runFrom_append, gapReached, gapWritten, value_read secret rule value stop,
                  from_found _ gap value (by simp) (by rw [found]; simp; rfl) blank stop closed
                    (value_ends_key rule value), ← ih _ less _ rfl]
                simp
          · have outside : isKeyCharacter c = false := by simpa using start
            rw [plain_read secret rule c rest outside, from_plain none c rest outside,
              ih rest.length (by simp [← measured]) rest rfl]

end Reading

/-! The two copies of `redact_text`. -/

inductive Redactor where
  | output
  | log
  deriving DecidableEq

def Redactor.rule : Redactor → KeyRule
  | .output => outputRule
  | .log => observeRule

def Redactor.valueRule : Redactor → ValueRule
  | .output => .schemed
  | .log => .plain

def Redactor.redactText : Redactor → Text → Text
  | .output => outputRedactText
  | .log => observeRedactText

def Redactor.assignments (redactor : Redactor) : Machine Scan Char Char :=
  assignmentMachine redactor.rule.isSecretKeyNormalized redactor.valueRule

/-- One left-to-right reading of a text: the scheme passes, then the scanner. -/
def Redactor.machine (redactor : Redactor) : Machine (Place × Scan) Char Char :=
  (credentialMachine authSchemes).compose redactor.assignments

theorem redactor_machine_exact (redactor : Redactor) (input : Text) :
    redactor.machine.run input = redactor.redactText input := by
  have scanned : ∀ text, redactor.assignments.run text =
      redactSecretAssignments redactor.rule.isSecretKeyNormalized redactor.valueRule.skip text :=
    assignment_machine_from _ _
  rw [Redactor.machine, Machine.compose_run, credential_machine_exact authSchemes auth_schemes_valid,
    scanned]
  cases redactor <;> rfl

-- The states in which the scanner does not copy what it reads.
def Scan.masks : Scan → Bool
  | .text _ | .gap => false
  | .value | .quoted _ | .unquoted _ _ | .schemeGap => true

/-- A value read in this state is replaced, by a scheme pass or by the scanner. -/
def masks : Place × Scan → Bool
  | (place, scan) => place.taken.isSome || scan.masks

section Value

variable (secret : Text → Bool) (rule : ValueRule)

theorem closing_writes (schemes : List Text) (post : Text) (closed : closesValue post = true) :
    closesValue ((credentialMachine schemes).runFrom ⟨[], none⟩ post) = true := by
  cases post with
  | nil => rfl
  | cons c rest =>
      have stop : c = ',' ∨ c = ';' := by simpa [closesValue] using closed
      rcases stop with rfl | rfl <;> simp [credentialStep, isCredentialEnd, closesValue]

-- Behind a value the scanner forgets what it read.
theorem text_closed (run post : Text) (closed : closesValue post = true) :
    (assignmentMachine secret rule).runFrom (.text run) post =
      (assignmentMachine secret rule).runFrom (.text []) post := by
  cases post with
  | nil => rfl
  | cons c rest =>
      have stop : c = ',' ∨ c = ';' := by simpa [closesValue] using closed
      have other : isKeyCharacter c = false ∧ isSeparator c = false ∧ isQuote c = false ∧
          isWhitespace c = false := by
        rcases stop with rfl | rfl <;> decide
      simp [textStep, other]

theorem unquoted_closed (rule' : ValueRule) (read post : Text) (closed : closesValue post = true) :
    (assignmentMachine secret rule).runFrom (.unquoted rule' read) post =
      (assignmentMachine secret rule).runFrom (.text []) post := by
  cases post with
  | nil => rfl
  | cons c rest =>
      have stop : c = ',' ∨ c = ';' := by simpa [closesValue] using closed
      have other : isUnquotedSecretDelimiter c = true ∧ isWhitespace c = false ∧
          isKeyCharacter c = false ∧ c ≠ ']' := by
        rcases stop with rfl | rfl <;> decide
      have unmarked : (read ++ [c] == redacted) = false := by
        rw [beq_eq_false_iff_ne]
        intro same
        have last := congrArg List.getLast? same
        rw [List.getLast?_concat] at last
        exact other.2.2.2 (Option.some.inj last)
      simp [textStep, other, unmarked]

theorem unquoted_silent (rule' : ValueRule) (read word : Text)
    (inside : ∀ c ∈ word, isUnquotedSecretDelimiter c = false) :
    (assignmentMachine secret rule).reach (.unquoted rule' read) word =
        .unquoted rule' (read ++ word) ∧
      (assignmentMachine secret rule).emit (.unquoted rule' read) word = [] := by
  induction word generalizing read with
  | nil => simp
  | cons c word ih =>
      have head := inside c List.mem_cons_self
      have tail := ih (read ++ [c]) (fun d member => inside d (List.mem_cons_of_mem c member))
      simpa [head] using tail

-- What the scanner writes for a value depends on the value only in plain text.
def Scan.valueText : Scan → Text → Text
  | .text _, word | .gap, word => word
  | .value, _ => redacted
  | .quoted _, _ | .unquoted _ _, _ | .schemeGap, _ => []

theorem scan_value_text (scan : Scan) (value : Text) :
    scan.valueText value = scan.valueText [] ++ (if scan.masks then [] else value) := by
  cases scan <;> simp [Scan.valueText, Scan.masks]

-- The state behind the value, as far as the text behind it can tell.
def Scan.behindValue : Scan → Scan
  | .quoted quote => .quoted quote
  | _ => .text []

theorem scanned_value (scan : Scan) (value post : Text) (plain : isPlainValue value = true)
    (closed : closesValue post = true) :
    (assignmentMachine secret rule).runFrom scan (value ++ post) =
      scan.valueText value ++ (assignmentMachine secret rule).runFrom scan.behindValue post := by
  obtain ⟨nonempty, letters⟩ := plain_value_parts value plain
  have key : ∀ c ∈ value, isKeyCharacter c = true := by
    intro c member
    simp [isKeyCharacter, letters c member]
  have inside : ∀ c ∈ value, isUnquotedSecretDelimiter c = false :=
    fun c member => (alphanumeric_not_delimiter c (letters c member)).1
  have unquoted : ∀ rule' read word, (∀ c ∈ word, isUnquotedSecretDelimiter c = false) →
      (assignmentMachine secret rule).runFrom (.unquoted rule' read) (word ++ post) =
        (assignmentMachine secret rule).runFrom (.text []) post := by
    intro rule' read word inside
    obtain ⟨reached, written⟩ := unquoted_silent secret rule rule' read word inside
    rw [Machine.runFrom_append, reached, written, unquoted_closed secret rule _ _ post closed,
      List.nil_append]
  have text : ∀ run, (assignmentMachine secret rule).runFrom (.text run) (value ++ post) =
      value ++ (assignmentMachine secret rule).runFrom (.text []) post := by
    intro run
    obtain ⟨reached, written⟩ := key_read secret rule run value key
    rw [Machine.runFrom_append, reached, written, text_closed secret rule _ post closed]
  obtain ⟨c, rest, split⟩ := List.exists_cons_of_ne_nil nonempty
  have first := key_not_delimiter c (key c (by simp [split]))
  have later : ∀ d ∈ rest, isUnquotedSecretDelimiter d = false :=
    fun d member => inside d (by simp [split, member])
  cases scan with
  | text run => exact text run
  | unquoted rule' read => exact unquoted rule' read value inside
  | gap =>
      rw [gap_left secret rule (value ++ post) (by simp [split, first]) (by simp [split, first])]
      exact text []
  | value =>
      have tail := unquoted rule [c] rest later
      simp [split, first, tail, Scan.valueText, Scan.behindValue]
  | schemeGap =>
      have tail := unquoted .marked [c] rest later
      simp [split, first, tail, Scan.valueText, Scan.behindValue]
  | quoted quote =>
      have silent := (assignmentMachine secret rule).silent_stay (.quoted quote) value (by
        intro d member
        have other : d ≠ quote.char := by
          rintro rfl
          have quoted : isQuote quote.char = true := by cases quote <;> decide
          rw [(key_not_delimiter _ (key _ member)).2.2.1] at quoted
          contradiction
        simp [other])
      rw [Machine.runFrom_append, silent.1, silent.2]
      rfl

end Value

-- A value shows in what is written from a state exactly if the state does not mask it.
theorem value_written_from (redactor : Redactor) (state : Place × Scan) (post : Text)
    (closed : closesValue post = true) :
    ∃ before after, ∀ value, isPlainValue value = true →
      redactor.machine.runFrom state (value ++ post) =
        before ++ (if masks state then [] else value) ++ after := by
  obtain ⟨place, scan⟩ := state
  have stop := closing_writes authSchemes post closed
  have both : ∀ value, isPlainValue value = true →
      redactor.machine.runFrom (place, scan) (value ++ post) =
        redactor.assignments.runFrom scan (place.valueText value ++
          (credentialMachine authSchemes).runFrom ⟨[], none⟩ post) := by
    intro value plain
    rw [Redactor.machine, Machine.compose_runFrom, value_written authSchemes place _ _ plain closed]
  cases taken : place.taken with
  | some pass =>
      refine ⟨redactor.assignments.runFrom scan (place.valueText ['x'] ++
        (credentialMachine authSchemes).runFrom ⟨[], none⟩ post), [], ?_⟩
      intro value plain
      have same : place.valueText value = place.valueText ['x'] := by simp [Place.valueText, taken]
      rw [both value plain, same]
      simp [masks, taken]
  | none =>
      have scanned : ∀ value, isPlainValue value = true →
          redactor.machine.runFrom (place, scan) (value ++ post) =
            scan.valueText value ++ redactor.assignments.runFrom scan.behindValue
              ((credentialMachine authSchemes).runFrom ⟨[], none⟩ post) := by
        intro value plain
        rw [both value plain, Place.valueText, taken]
        exact scanned_value _ _ scan value _ plain stop
      refine ⟨scan.valueText [], redactor.assignments.runFrom scan.behindValue
        ((credentialMachine authSchemes).runFrom ⟨[], none⟩ post), ?_⟩
      intro value plain
      rw [scanned value plain, scan_value_text]
      simp [masks, taken]

/-- The text of an assignment up to its value: a key that is secret by the
redactors' own test, at the start or behind a character outside keys. -/
structure Assignment where
  pre : Text
  key : Text
  ws1 : Text
  sep : Char
  ws2 : Text
  boundary : pre.getLast?.all (fun c => !isKeyCharacter c) = true
  secretKey : ∀ redactor : Redactor, redactor.rule.isSecretKey key = true
  blank1 : ∀ c ∈ ws1, isWhitespace c = true
  separator : isSeparator sep = true
  blank2 : ∀ c ∈ ws2, isWhitespace c = true

def Assignment.text (assignment : Assignment) : Text :=
  assignment.pre ++ assignment.key ++ assignment.ws1 ++ [assignment.sep] ++ assignment.ws2

/-- No choice of the value shows in the output of either redactor. -/
def ValueHidden (assignment : Assignment) (post : Text) : Prop :=
  ∀ redactor : Redactor, ∀ value other, isPlainValue value = true → isPlainValue other = true →
    redactor.redactText (assignment.text ++ value ++ post) =
      redactor.redactText (assignment.text ++ other ++ post)

/-- Where the value starts, both redactors stand in text they replace. -/
def ValueExpected (assignment : Assignment) : Prop :=
  ∀ redactor : Redactor,
    masks (redactor.machine.reach redactor.machine.start assignment.text) = true

theorem blanks_written (schemes : List Text) (place : Place) (blanks : Text)
    (blank : ∀ c ∈ blanks, isWhitespace c = true) :
    (credentialMachine schemes).emit place blanks = blanks := by
  induction blanks generalizing place with
  | nil => rfl
  | cons c blanks ih =>
      have closes : isCredentialEnd c = true := by
        simp [isCredentialEnd, blank c List.mem_cons_self]
      have tail := ih (credentialStep schemes place c).1
        (fun d member => blank d (List.mem_cons_of_mem c member))
      simpa [credentialStep, closes] using tail

theorem key_text_written (letters key ws1 ws2 : Text) (sep : Char)
    (keyed : ∀ c ∈ key, isKeyCharacter c = true) (blank1 : ∀ c ∈ ws1, isWhitespace c = true)
    (separator : isSeparator sep = true) (blank2 : ∀ c ∈ ws2, isWhitespace c = true)
    (apart : ws1 = [' '] → rank authSchemes (letters ++ key) = none) :
    (credentialMachine authSchemes).emit ⟨letters, none⟩ (key ++ ws1 ++ [sep] ++ ws2) =
      key ++ ws1 ++ [sep] ++ ws2 := by
  have free : ∀ c ∈ key, isCredentialEnd c = false := by
    intro c member
    have delimiter := (key_not_delimiter c (keyed c member)).2.1
    simp only [isUnquotedSecretDelimiter, Bool.or_eq_false_iff] at delimiter
    simp [isCredentialEnd, delimiter]
  have open' : isCredentialEnd sep = false := by
    have codes : sep = '=' ∨ sep = ':' := by simpa [isSeparator] using separator
    rcases codes with rfl | rfl <;> decide
  obtain ⟨word, gapped⟩ : ∃ word,
      (credentialMachine authSchemes).reach ⟨letters ++ key, none⟩ ws1 = ⟨word, none⟩ := by
    by_cases empty : ws1 = []
    · exact ⟨letters ++ key, by rw [empty]; rfl⟩
    · refine ⟨[], ?_⟩
      rw [blanks_read authSchemes auth_schemes_valid _ ws1 empty blank1]
      by_cases single : ws1 = [' ']
      · simp [opens, apart single]
      · simp [single]
  rw [Machine.emit_append, blanks_written authSchemes _ ws2 blank2, Machine.emit_append,
    Machine.emit_append, Machine.reach_append, plain_word_written authSchemes letters key free,
    word_read authSchemes _ key free, blanks_written authSchemes _ ws1 blank1, gapped]
  simp [credentialStep, open']

theorem key_text_read (secret : Text → Bool) (rule : ValueRule) (key ws1 ws2 : Text) (sep : Char)
    (hit : secret (normalizeKey key) = true) (nonempty : key ≠ [])
    (keyed : ∀ c ∈ key, isKeyCharacter c = true) (blank1 : ∀ c ∈ ws1, isWhitespace c = true)
    (separator : isSeparator sep = true) (blank2 : ∀ c ∈ ws2, isWhitespace c = true) :
    (assignmentMachine secret rule).reach (.text []) (key ++ ws1 ++ [sep] ++ ws2) = .value := by
  have other := separator_not_key sep separator
  have entered : (scanStep secret rule
      ((assignmentMachine secret rule).reach (.text key) ws1) sep).1 = .value := by
    cases ws1 with
    | nil => simp [textStep, other, separator, nonempty, hit]
    | cons c blanks =>
        have kind := blank_not_key c (blank1 c List.mem_cons_self)
        have gap := (gap_read secret rule blanks
          (fun d member => blank1 d (List.mem_cons_of_mem c member))).1
        have first : scanStep secret rule (.text key) c = (.gap, [c]) := by
          simp [textStep, kind, nonempty, hit, blank1 c List.mem_cons_self]
        rw [Machine.reach_cons, assignment_machine_step, first, gap]
        simp [other, separator]
  rw [Machine.reach_append, Machine.reach_append, Machine.reach_append,
    (key_read secret rule [] key keyed).1, List.nil_append, Machine.reach_cons,
    assignment_machine_step, entered, Machine.reach_nil]
  exact (value_blanks_read secret rule ws2 blank2).1

theorem secret_key_nonempty (redactor : Redactor) (key : Text)
    (secretKey : redactor.rule.isSecretKey key = true) : key ≠ [] := by
  rintro rfl
  cases redactor <;> revert secretKey <;> decide

/-- In plain text, a secret key of key characters is recognised unless it ends in
a scheme word and one space, which would make its separator a credential. -/
theorem plain_assignment_expected (assignment : Assignment) (redactor : Redactor) (letters : Text)
    (plain : redactor.machine.reach redactor.machine.start assignment.pre =
      (⟨letters, none⟩, .text []))
    (key : ∀ c ∈ assignment.key, isKeyCharacter c = true)
    (apart : assignment.ws1 = [' '] → rank authSchemes (letters ++ assignment.key) = none) :
    masks (redactor.machine.reach redactor.machine.start assignment.text) = true := by
  have whole : assignment.text = assignment.pre ++
      (assignment.key ++ assignment.ws1 ++ [assignment.sep] ++ assignment.ws2) := by
    simp [Assignment.text]
  have written := key_text_written letters assignment.key assignment.ws1 assignment.ws2
    assignment.sep key assignment.blank1 assignment.separator assignment.blank2 apart
  have scanned : redactor.assignments.reach (.text [])
      (assignment.key ++ assignment.ws1 ++ [assignment.sep] ++ assignment.ws2) = .value :=
    key_text_read _ _ assignment.key assignment.ws1 assignment.ws2 assignment.sep
      (assignment.secretKey redactor) (secret_key_nonempty redactor _ (assignment.secretKey redactor))
      key assignment.blank1 assignment.separator assignment.blank2
  rw [whole, Machine.reach_append, plain, Redactor.machine, Machine.compose_reach, written, scanned]
  simp [masks, Scan.masks]

-- An assignment to a key of the common kind, with its separator behind two blanks.
def listedKey : Assignment where
  pre := "see Bearer x, ".toList
  key := "api_key".toList
  ws1 := "  ".toList
  sep := ':'
  ws2 := " ".toList
  boundary := by decide
  secretKey := by intro redactor; cases redactor <;> decide
  blank1 := List.all_eq_true.mp (by decide)
  separator := by decide
  blank2 := List.all_eq_true.mp (by decide)

-- `token = `, where the pass for the scheme word `Token` takes the separator.
def spacedToken : Assignment where
  pre := []
  key := "token".toList
  ws1 := " ".toList
  sep := '='
  ws2 := " ".toList
  boundary := rfl
  secretKey := by intro redactor; cases redactor <;> decide
  blank1 := List.all_eq_true.mp (by decide)
  separator := by decide
  blank2 := List.all_eq_true.mp (by decide)

end Missive.SecretAssignments
