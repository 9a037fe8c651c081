import Missive.SecretAssignments

/-! Redaction applied twice. What a redactor has written is read again by the same one-pass machine,
which stands next to the first: it copies what was copied, and of a replaced value it sees the
marker only. -/
namespace Missive.RedactionEchoes

open RustText SecretKeys TextRedaction AuthCredentials SecretAssignments Transducer

/-! Words. A character that occurs in no scheme word separates what follows from what was before. -/

def Foreign (c : Char) : Prop := ∀ scheme ∈ authSchemes, toAsciiLowercase c ∉ lowercase scheme

instance (c : Char) : Decidable (Foreign c) :=
  inferInstanceAs (Decidable (∀ scheme ∈ authSchemes, toAsciiLowercase c ∉ lowercase scheme))

-- A word that starts here ends in a scheme exactly when the whole word does.
def Fresh (letters : Text) : Prop :=
  ∀ rest, rank authSchemes (letters ++ rest) = rank authSchemes rest

def Alike (first last : Text) : Prop :=
  ∀ rest, rank authSchemes (first ++ rest) = rank authSchemes (last ++ rest)

theorem fresh_nil : Fresh [] := fun _ => rfl

theorem fresh_rank {letters : Text} (fresh : Fresh letters) : rank authSchemes letters = none := by
  have whole := fresh []
  rw [List.append_nil] at whole
  rw [whole, rank_nil authSchemes auth_schemes_valid]

theorem alike_fresh {first last : Text} (left : Fresh first) (right : Fresh last) :
    Alike first last := fun rest => (left rest).trans (right rest).symm

theorem alike_rank {first last : Text} (alike : Alike first last) :
    rank authSchemes first = rank authSchemes last := by
  simpa using alike []

theorem alike_append {first last : Text} (alike : Alike first last) (word : Text) :
    Alike (first ++ word) (last ++ word) := by
  intro rest
  rw [List.append_assoc, List.append_assoc]
  exact alike (word ++ rest)

theorem fresh_foreign (letters : Text) (c : Char) (foreign : Foreign c) : Fresh (letters ++ [c]) := by
  intro rest
  apply rank_congr
  intro scheme listed
  have outside := foreign scheme listed
  unfold endsWithScheme
  rw [Bool.eq_iff_iff, List.isSuffixOf_iff_suffix, List.isSuffixOf_iff_suffix, List.append_assoc,
    lowercase_append]
  have whole : lowercase ([c] ++ rest) = toAsciiLowercase c :: lowercase rest := rfl
  rw [whole]
  constructor
  · intro suffix
    have tail : toAsciiLowercase c :: lowercase rest <:+
        lowercase letters ++ toAsciiLowercase c :: lowercase rest := List.suffix_append _ _
    rcases List.suffix_or_suffix_of_suffix suffix tail with inside | across
    · rcases List.suffix_cons_iff.mp inside with same | behind
      · exact absurd (same ▸ List.mem_cons_self) outside
      · exact behind
    · exact absurd (across.subset List.mem_cons_self) outside
  · intro suffix
    exact suffix.trans ((List.suffix_cons _ _).trans (List.suffix_append _ _))

theorem fresh_redacted (letters : Text) : Fresh (letters ++ redacted) := by
  have last : redacted = "[REDACTED".toList ++ [']'] := by decide
  rw [last, ← List.append_assoc]
  exact fresh_foreign _ _ (by decide)

/-! The scheme passes on what is written. -/

theorem place_copies (place : Place) (c : Char)
    (copied : place.taken = none ∨ isCredentialEnd c = true) :
    ((credentialMachine authSchemes).step place c).2 = [c] := by
  rw [credential_machine_step, credentialStep]
  by_cases closes : isCredentialEnd c = true
  · simp [closes]
  · simp [closes, copied.resolve_right closes]

theorem place_closed (place : Place) (c : Char) (closes : isCredentialEnd c = true) :
    ((credentialMachine authSchemes).step place c).1 =
      ⟨[], if c == ' ' then opens authSchemes place else none⟩ := by
  rw [credential_machine_step, credentialStep, if_pos closes]

theorem place_continued (place : Place) (c : Char) (inside : isCredentialEnd c = false) :
    ((credentialMachine authSchemes).step place c).1 = ⟨place.letters ++ [c], place.taken⟩ := by
  rw [credential_machine_step, credentialStep]
  simp [inside]

theorem opens_none {place : Place} (ended : rank authSchemes place.letters = none) :
    opens authSchemes place = none := by
  simp [opens, ended]

theorem opens_untaken {place : Place} (untaken : place.taken = none) :
    opens authSchemes place = rank authSchemes place.letters := by
  rw [opens, untaken]
  cases rank authSchemes place.letters <;> rfl

theorem marker_copied (place : Place) (untaken : place.taken = none) :
    (credentialMachine authSchemes).reach place redacted = ⟨place.letters ++ redacted, none⟩ ∧
      (credentialMachine authSchemes).emit place redacted = redacted := by
  obtain ⟨letters, taken⟩ := place
  cases untaken
  exact ⟨word_read authSchemes _ redacted redacted_free,
    plain_word_written authSchemes letters redacted redacted_free⟩

-- A taken marker is replaced by itself.
theorem marker_taken (place : Place) (start : place.letters = []) :
    (credentialMachine authSchemes).reach place redacted = ⟨redacted, place.taken⟩ ∧
      (credentialMachine authSchemes).emit place redacted = redacted := by
  obtain ⟨letters, taken⟩ := place
  cases start
  refine ⟨word_read authSchemes _ redacted redacted_free, ?_⟩
  cases taken with
  | none => exact plain_word_written authSchemes [] redacted redacted_free
  | some pass => exact taken_word_written authSchemes redacted pass (by decide) redacted_free

/-! The scanner on what is written. -/

-- Where a scanner stands that has seen the marker of a value and not the value.
def settled : Scan → Scan
  | .unquoted _ _ | .schemeGap => .text []
  | scan => scan

section Scanner

variable (secret : Text → Bool) (rule : ValueRule)

/-- The scanner copies the character: it reads on as text, looks for a separator or has found it. -/
inductive Copies (c : Char) : Scan × Text → Prop
  | text (run : Text) (ended : isCredentialEnd c = true → run = []) : Copies c (.text run, [c])
  | gap : Copies c (.gap, [c])
  | value (separator : isSeparator c = true) : Copies c (.value, [c])

theorem key_inside {c : Char} (key : isKeyCharacter c = true) : isCredentialEnd c = false := by
  obtain ⟨visible, inside, _, _⟩ := key_not_delimiter c key
  simp only [isUnquotedSecretDelimiter, Bool.or_eq_false_iff] at inside
  simp [isCredentialEnd, visible, inside]

theorem textStep_copies (run : Text) (c : Char) : Copies c (textStep secret run c) := by
  unfold textStep
  split
  · rename_i key
    exact .text _ fun ended => by simp [key_inside key] at ended
  · split
    · split
      · exact .value ‹_›
      · split
        · exact .gap
        · exact .text [] fun _ => rfl
    · exact .text [] fun _ => rfl

theorem gap_copies (c : Char) : Copies c (scanStep secret rule .gap c) := by
  simp only [scanStep]
  split
  · exact .gap
  · split
    · exact .value ‹_›
    · exact textStep_copies secret [] c

theorem redacted_spelled : redacted = ['[', 'R', 'E', 'D', 'A', 'C', 'T', 'E', 'D', ']'] := by
  decide

theorem text_marker : (assignmentMachine secret rule).reach (.text []) redacted = .text [] ∧
    (assignmentMachine secret rule).emit (.text []) redacted = redacted := by
  have key : ['R', 'E', 'D', 'A', 'C', 'T', 'E', 'D'].all isKeyCharacter = true := by decide
  have opening : isKeyCharacter '[' = false ∧ isKeyCharacter ']' = false := by decide
  have closing : isSeparator ']' = false ∧ isQuote ']' = false ∧ isWhitespace ']' = false := by decide
  simp only [List.all_cons, Bool.and_eq_true] at key
  rw [redacted_spelled]
  simp [scanStep, textStep, key, opening, closing]

theorem gap_marker : (assignmentMachine secret rule).reach .gap redacted = .text [] ∧
    (assignmentMachine secret rule).emit .gap redacted = redacted := by
  have same : scanStep secret rule .gap '[' = scanStep secret rule (.text []) '[' := rfl
  have text := text_marker secret rule
  rw [redacted_spelled] at text ⊢
  simpa only [Machine.reach_cons, Machine.emit_cons, assignment_machine_step, same] using text

theorem quoted_marker (quote : Quote) :
    (assignmentMachine secret rule).reach (.quoted quote) redacted = .quoted quote ∧
      (assignmentMachine secret rule).emit (.quoted quote) redacted = [] := by
  have apart : ∀ c ∈ redacted, (c == quote.char) = false :=
    absent_from (by cases quote <;> decide)
  apply Machine.silent_stay
  intro c member
  simp [scanStep, apart c member]

-- A marker for a value, read where the value starts or behind a scheme word.
theorem value_marker (marked : rule ≠ .plain) :
    (assignmentMachine secret rule).reach .value redacted = .text [] ∧
      (assignmentMachine secret rule).emit .value redacted = redacted := by
  cases rule with
  | plain => exact absurd rfl marked
  | marked => constructor <;> rfl
  | schemed => constructor <;> rfl

theorem scheme_marker :
    (assignmentMachine secret rule).reach .schemeGap redacted = .text [] ∧
      (assignmentMachine secret rule).emit .schemeGap redacted = [] := by
  constructor <;> rfl

/-! Both readings side by side. -/

/-- Before a value both places have read the same words, up to where the last value ended. -/
def Seen (first last : Place) : Prop :=
  match first.taken with
  | none => last.taken = none ∧ Alike first.letters last.letters
  | some _ => if first.letters = [] then last.letters = [] else Fresh last.letters

-- The second place has read a marker and nothing behind it.
def Behind (place : Place) : Prop := place.taken = none ∧ Fresh place.letters

/-- How the places of the two readings compare, by where the scanner of the first stands. -/
def Places (first last : Place) (scan : Scan) : Prop :=
  match scan with
  | .text run => Seen first last ∧ (first.letters = [] → run = []) ∧ (first.taken ≠ none → run = [])
  | .gap => Seen first last ∧ (first.letters ≠ [] → first.taken = none)
  | .value => first.taken = none ∧ Fresh first.letters ∧ Behind last
  | .quoted _ => Behind last
  | .unquoted rule _ => Behind last ∧ rule ≠ .plain ∧ first.taken = none ∧ first.letters ≠ []
  | .schemeGap => Behind last ∧ first.letters = []

def Side (first last : Place × Scan) : Prop :=
  last.2 = settled first.2 ∧ Places first.1 last.1 first.2

def again : Machine (Place × Scan) Char Char :=
  (credentialMachine authSchemes).compose (assignmentMachine secret rule)

theorem side_of {last place : Place} {lastScan scan : Scan} {written : Text}
    (copied : (credentialMachine authSchemes).emit last written = written)
    (reached : (assignmentMachine secret rule).reach lastScan written = settled scan)
    (echoed : (assignmentMachine secret rule).emit lastScan written = written)
    (places : Places place ((credentialMachine authSchemes).reach last written) scan) :
    Side (place, scan) ((again secret rule).reach (last, lastScan) written) ∧
      (again secret rule).emit (last, lastScan) written = written := by
  rw [again, Machine.compose_reach, Machine.compose_emit, copied]
  exact ⟨⟨reached, places⟩, echoed⟩

-- A character that is copied, before a value.
theorem seen_step {first last : Place} (seen : Seen first last) (c : Char)
    (copied : first.taken = none ∨ isCredentialEnd c = true) :
    Seen ((credentialMachine authSchemes).step first c).1 ((credentialMachine authSchemes).step last c).1 ∧
      ((credentialMachine authSchemes).step last c).2 = [c] := by
  by_cases closes : isCredentialEnd c = true
  · refine ⟨?_, place_copies last c (Or.inr closes)⟩
    rw [place_closed first c closes, place_closed last c closes]
    have opened : opens authSchemes first = none → opens authSchemes last = none := by
      intro closed
      unfold Seen at seen
      cases taken : first.taken with
      | none =>
          rw [taken] at seen
          rwa [opens_untaken seen.1, ← alike_rank seen.2, ← opens_untaken taken]
      | some pass =>
          rw [taken] at seen
          by_cases start : first.letters = []
          · rw [if_pos start] at seen
            exact opens_none (by rw [seen, rank_nil authSchemes auth_schemes_valid])
          · rw [if_neg start] at seen
            exact opens_none (fresh_rank seen)
    unfold Seen
    by_cases space : c = ' '
    · cases next : opens authSchemes first with
      | none => simp [space, opened next, Alike]
      | some pass => simp [space]
    · simp [space, Alike]
  · have inside : isCredentialEnd c = false := by simpa using closes
    have untaken := copied.resolve_right closes
    unfold Seen at seen
    rw [untaken] at seen
    refine ⟨?_, place_copies last c (Or.inl seen.1)⟩
    rw [place_continued first c inside, place_continued last c inside]
    unfold Seen
    simpa [untaken, seen.1] using alike_append seen.2 [c]

theorem copies_places {first last : Place} {c : Char} {after : Scan × Text} (seen : Seen first last)
    (copied : first.taken = none ∨ isCredentialEnd c = true) (copies : Copies c after) :
    Places ((credentialMachine authSchemes).step first c).1
      ((credentialMachine authSchemes).step last c).1 after.1 := by
  have next := (seen_step seen c copied).1
  by_cases closes : isCredentialEnd c = true
  · rw [place_closed first c closes] at next ⊢
    cases copies with
    | text run ended => exact ⟨next, fun _ => ended closes, fun _ => ended closes⟩
    | gap => exact ⟨next, fun filled => absurd rfl filled⟩
    | value separator =>
        have codes : c = '=' ∨ c = ':' := by simpa [isSeparator] using separator
        rcases codes with rfl | rfl <;> contradiction
  · have inside : isCredentialEnd c = false := by simpa using closes
    have untaken := copied.resolve_right closes
    rw [place_continued first c inside] at next ⊢
    cases copies with
    | text run ended => exact ⟨next, fun empty => by simp at empty, fun taken => absurd untaken taken⟩
    | gap => exact ⟨next, fun _ => untaken⟩
    | value separator =>
        have foreign : Foreign c := by
          have codes : c = '=' ∨ c = ':' := by simpa [isSeparator] using separator
          rcases codes with rfl | rfl <;> decide
        unfold Seen at seen
        rw [untaken] at seen
        rw [place_continued last c inside]
        exact ⟨untaken, fresh_foreign _ c foreign, seen.1, fresh_foreign _ c foreign⟩

theorem settled_copies {c : Char} {after : Scan × Text} (copies : Copies c after) :
    settled after.1 = after.1 ∧ after.2 = [c] := by
  cases copies <;> exact ⟨rfl, rfl⟩

-- Behind a replaced value: the marker has been read, and the character that ends the value is read.
theorem behind_step {first last : Place} (behind : Behind last) (c : Char)
    (copied : first.taken = none ∨ isCredentialEnd c = true)
    (foreign : isCredentialEnd c = false → Foreign c) :
    Seen ((credentialMachine authSchemes).step first c).1
      ((credentialMachine authSchemes).step last c).1 := by
  by_cases closes : isCredentialEnd c = true
  · rw [place_closed first c closes, place_closed last c closes,
      opens_none (fresh_rank behind.2)]
    unfold Seen
    by_cases space : c = ' '
    · cases opens authSchemes first <;> simp [space, Alike]
    · simp [space, Alike]
  · have inside : isCredentialEnd c = false := by simpa using closes
    have apart := foreign inside
    rw [place_continued first c inside, place_continued last c inside]
    unfold Seen
    rw [copied.resolve_right closes]
    exact ⟨behind.1, alike_fresh (fresh_foreign _ c apart) (fresh_foreign _ c apart)⟩

theorem delimiter_foreign {c : Char} (delimiter : isUnquotedSecretDelimiter c = true)
    (inside : isCredentialEnd c = false) : Foreign c := by
  have braces : c = '\x7d' ∨ c = ']' := by
    simp only [isUnquotedSecretDelimiter, Bool.or_eq_true, beq_iff_eq] at delimiter
    simp only [isCredentialEnd, Bool.or_eq_false_iff, beq_eq_false_iff_ne] at inside
    obtain ⟨⟨visible, noComma⟩, noSemicolon⟩ := inside
    simpa [visible, noComma, noSemicolon] using delimiter
  rcases braces with rfl | rfl <;> decide

theorem quote_foreign {c : Char} (quote : isQuote c = true) : Foreign c := by
  have codes : c = '\x22' ∨ c = '\x27' := by simpa [isQuote] using quote
  rcases codes with rfl | rfl <;> decide

theorem visible_inside {c : Char} (bare : isUnquotedSecretDelimiter c = false) :
    isCredentialEnd c = false := by
  simp only [isUnquotedSecretDelimiter, Bool.or_eq_false_iff] at bare
  simp [isCredentialEnd, bare]

theorem text_delimiter {c : Char} (delimiter : isUnquotedSecretDelimiter c = true) :
    textStep secret [] c = (.text [], [c]) := by
  simp [textStep, delimiter_not_key c delimiter]

/-- The characters a reading may meet without leaving a value to its second reading. -/
def Marked (state : Place × Scan) (c : Char) : Prop :=
  state.2 = .value → rule ≠ .plain ∨ isWhitespace c = true ∨ isQuote c = true

variable {first last : Place}

/-! One character that the scheme passes copy, by where the scanner stands. -/

theorem side_copied {c : Char} {scan : Scan} (seen : Seen first last)
    (copied : first.taken = none ∨ isCredentialEnd c = true)
    (copies : Copies c (scanStep secret rule scan c)) :
    Side (((credentialMachine authSchemes).step first c).1, (scanStep secret rule scan c).1)
        ((again secret rule).reach (last, scan) (scanStep secret rule scan c).2) ∧
      (again secret rule).emit (last, scan) (scanStep secret rule scan c).2 =
        (scanStep secret rule scan c).2 := by
  obtain ⟨settles, written⟩ := settled_copies copies
  apply side_of
  · rw [written, Machine.emit_single]
    exact (seen_step seen c copied).2
  · rw [settles, written]
    rfl
  · rw [written, Machine.emit_single, assignment_machine_step, written]
  · rw [written]
    exact copies_places seen copied copies

-- The character that ends a replaced value.
theorem side_closed {c : Char} {scan : Scan} (behind : Behind last)
    (copied : first.taken = none ∨ isCredentialEnd c = true)
    (foreign : isCredentialEnd c = false → Foreign c) (closes : scanStep secret rule scan c = (.text [], [c])) :
    Side (((credentialMachine authSchemes).step first c).1, .text [])
        ((again secret rule).reach (last, scan) [c]) ∧
      (again secret rule).emit (last, scan) [c] = [c] := by
  apply side_of
  · rw [Machine.emit_single]
    exact place_copies last c (Or.inl behind.1)
  · rw [Machine.reach_cons, assignment_machine_step, closes]
    rfl
  · rw [Machine.emit_single, assignment_machine_step, closes]
  · exact ⟨behind_step behind c copied foreign, fun _ => rfl, fun _ => rfl⟩

theorem side_silent {place : Place} {scan after : Scan} (same : settled scan = settled after)
    (places : Places place last after) :
    Side (place, after) ((again secret rule).reach (last, settled scan) []) ∧
      (again secret rule).emit (last, settled scan) [] = [] :=
  ⟨⟨same, places⟩, rfl⟩

theorem side_value {c : Char} (places : Places first last .value)
    (marked : Marked rule (first, .value) c) :
    Side (((credentialMachine authSchemes).step first c).1, (scanStep secret rule .value c).1)
        ((again secret rule).reach (last, .value) (scanStep secret rule .value c).2) ∧
      (again secret rule).emit (last, .value) (scanStep secret rule .value c).2 =
        (scanStep secret rule .value c).2 := by
  obtain ⟨untaken, fresh, behind⟩ := places
  have marker := marker_copied last behind.1
  have reached : Behind ((credentialMachine authSchemes).reach last redacted) := by
    rw [marker.1]
    exact ⟨rfl, fresh_redacted last.letters⟩
  by_cases blank : isWhitespace c = true
  · have closes : isCredentialEnd c = true := by simp [isCredentialEnd, blank]
    have next : ∀ place : Place, place.taken = none → Fresh place.letters →
        ((credentialMachine authSchemes).step place c).1 = ⟨[], none⟩ := by
      intro place taken ended
      rw [place_closed place c closes, opens_none (fresh_rank ended), ite_self]
    have step : scanStep secret rule .value c = (.value, [c]) := by simp [scanStep, blank]
    rw [step]
    apply side_of
    · rw [Machine.emit_single]
      exact place_copies last c (Or.inl behind.1)
    · rw [Machine.reach_cons, assignment_machine_step, step]
      rfl
    · rw [Machine.emit_single, assignment_machine_step, step]
    · rw [Machine.reach_cons, Machine.reach_nil, next first untaken fresh,
        next last behind.1 behind.2]
      exact ⟨rfl, fresh_nil, rfl, fresh_nil⟩
  by_cases quote : isQuote c = true
  · have step : scanStep secret rule .value c = (.quoted (Quote.of c), c :: redacted) := by
      simp [scanStep, blank, quote]
    have swallowed := quoted_marker secret rule (Quote.of c)
    have inside : isCredentialEnd c = false := by
      have codes : c = '\x22' ∨ c = '\x27' := by simpa [isQuote] using quote
      rcases codes with rfl | rfl <;> decide
    have behindQuote := marker_copied ⟨last.letters ++ [c], last.taken⟩ behind.1
    rw [step]
    apply side_of
    · rw [Machine.emit_cons, place_copies last c (Or.inl behind.1), place_continued last c inside,
        behindQuote.2]
      rfl
    · rw [Machine.reach_cons, assignment_machine_step, step]
      exact swallowed.1
    · rw [Machine.emit_cons, assignment_machine_step, step, swallowed.2, List.append_nil]
    · rw [Machine.reach_cons, place_continued last c inside, behindQuote.1]
      exact ⟨rfl, fresh_redacted _⟩
  have replaced : rule ≠ .plain := by
    rcases marked rfl with kept | isBlank | isQuoted
    · exact kept
    · exact absurd isBlank blank
    · exact absurd isQuoted quote
  have read := value_marker secret rule replaced
  by_cases delimiter : isUnquotedSecretDelimiter c = true
  · have step : scanStep secret rule .value c = (.text [], redacted ++ [c]) := by
      simp [scanStep, blank, quote, delimiter]
    rw [step]
    apply side_of
    · rw [Machine.emit_append, marker.2, Machine.emit_single, place_copies _ c (Or.inl reached.1)]
    · rw [Machine.reach_append, read.1, Machine.reach_cons, assignment_machine_step, scanStep,
        text_delimiter secret delimiter]
      rfl
    · rw [Machine.emit_append, read.1, read.2, Machine.emit_single, assignment_machine_step, scanStep,
        text_delimiter secret delimiter]
    · rw [Machine.reach_append]
      exact ⟨behind_step reached c (Or.inl untaken) (delimiter_foreign delimiter),
        fun _ => rfl, fun _ => rfl⟩
  · have step : scanStep secret rule .value c = (.unquoted rule [c], redacted) := by
      simp [scanStep, blank, quote, delimiter]
    rw [step]
    apply side_of
    · exact marker.2
    · exact read.1
    · exact read.2
    · refine ⟨reached, replaced, ?_⟩
      rw [place_continued first c (visible_inside (by simpa using delimiter))]
      exact ⟨untaken, by simp⟩

theorem side_quoted {c : Char} {quote : Quote} (behind : Behind last)
    (copied : first.taken = none ∨ isCredentialEnd c = true) :
    Side (((credentialMachine authSchemes).step first c).1, (scanStep secret rule (.quoted quote) c).1)
        ((again secret rule).reach (last, .quoted quote) (scanStep secret rule (.quoted quote) c).2) ∧
      (again secret rule).emit (last, .quoted quote) (scanStep secret rule (.quoted quote) c).2 =
        (scanStep secret rule (.quoted quote) c).2 := by
  by_cases closes : c = quote.char
  · have step : scanStep secret rule (.quoted quote) c = (.text [], [c]) := by simp [scanStep, closes]
    have isQuoted : isQuote c = true := by rw [closes]; cases quote <;> decide
    rw [step]
    exact side_closed secret rule behind copied (fun _ => quote_foreign isQuoted) step
  · have step : scanStep secret rule (.quoted quote) c = (.quoted quote, []) := by
      simp [scanStep, closes]
    rw [step]
    exact side_silent secret rule rfl behind

theorem side_unquoted {c : Char} {rule' : ValueRule} {read : Text}
    (places : Places first last (.unquoted rule' read)) :
    Side (((credentialMachine authSchemes).step first c).1,
          (scanStep secret rule (.unquoted rule' read) c).1)
        ((again secret rule).reach (last, .text []) (scanStep secret rule (.unquoted rule' read) c).2) ∧
      (again secret rule).emit (last, .text []) (scanStep secret rule (.unquoted rule' read) c).2 =
        (scanStep secret rule (.unquoted rule' read) c).2 := by
  obtain ⟨behind, replaced, untaken, started⟩ := places
  by_cases delimiter : isUnquotedSecretDelimiter c = true
  · by_cases marked : read ++ [c] = redacted
    · have step : scanStep secret rule (.unquoted rule' read) c = (.text [], []) := by
        simp [scanStep, delimiter, replaced, marked]
      have last' : c = ']' := by
        have ends := congrArg List.getLast? marked
        rw [redacted_spelled, List.getLast?_append] at ends
        simpa using ends
      have inside : isCredentialEnd c = false := by rw [last']; decide
      have foreign : Foreign c := by rw [last']; decide
      rw [step]
      refine side_silent secret rule rfl ⟨?_, fun _ => rfl, fun _ => rfl⟩
      rw [place_continued first c inside]
      unfold Seen
      rw [untaken]
      exact ⟨behind.1, alike_fresh (fresh_foreign _ c foreign) behind.2⟩
    by_cases schemed : rule' = .schemed ∧ isWhitespace c = true ∧ isSchemeWord read = true
    · have step : scanStep secret rule (.unquoted rule' read) c = (.schemeGap, []) := by
        simp [scanStep, delimiter, marked, schemed]
      have closes : isCredentialEnd c = true := by simp [isCredentialEnd, schemed.2.1]
      rw [step]
      refine side_silent secret rule rfl ⟨behind, ?_⟩
      rw [place_closed first c closes]
    · have step : scanStep secret rule (.unquoted rule' read) c = (.text [], [c]) := by
        rw [← and_assoc] at schemed
        simp [scanStep, delimiter, marked, schemed]
      rw [step]
      exact side_closed secret rule behind (Or.inl untaken) (delimiter_foreign delimiter)
        (text_delimiter secret delimiter)
  · have step : scanStep secret rule (.unquoted rule' read) c = (.unquoted rule' (read ++ [c]), []) := by
      simp [scanStep, delimiter]
    rw [step]
    refine side_silent secret rule rfl ⟨behind, replaced, ?_⟩
    rw [place_continued first c (visible_inside (by simpa using delimiter))]
    exact ⟨untaken, by simp⟩

theorem side_schemeGap {c : Char} (places : Places first last .schemeGap)
    (copied : first.taken = none ∨ isCredentialEnd c = true) :
    Side (((credentialMachine authSchemes).step first c).1, (scanStep secret rule .schemeGap c).1)
        ((again secret rule).reach (last, .text []) (scanStep secret rule .schemeGap c).2) ∧
      (again secret rule).emit (last, .text []) (scanStep secret rule .schemeGap c).2 =
        (scanStep secret rule .schemeGap c).2 := by
  obtain ⟨behind, start⟩ := places
  by_cases blank : isWhitespace c = true
  · have step : scanStep secret rule .schemeGap c = (.schemeGap, []) := by simp [scanStep, blank]
    have closes : isCredentialEnd c = true := by simp [isCredentialEnd, blank]
    rw [step]
    refine side_silent secret rule rfl ⟨behind, ?_⟩
    rw [place_closed first c closes]
  by_cases delimiter : isUnquotedSecretDelimiter c = true
  · have step : scanStep secret rule .schemeGap c = (.text [], [c]) := by
      simp [scanStep, blank, delimiter]
    rw [step]
    exact side_closed secret rule behind copied (delimiter_foreign delimiter)
      (text_delimiter secret delimiter)
  · have inside := visible_inside (c := c) (by simpa using delimiter)
    have step : scanStep secret rule .schemeGap c = (.unquoted .marked [c], []) := by
      simp [scanStep, blank, delimiter]
    rw [step]
    refine side_silent secret rule rfl ⟨behind, by decide, ?_⟩
    rw [place_continued first c inside]
    exact ⟨copied.resolve_right (by simp [inside]), by simp⟩

/-! A credential that a scheme pass has taken. -/

theorem side_marker {c : Char} {scan : Scan} (taken : first.taken ≠ none) (start : first.letters = [])
    (inside : isCredentialEnd c = false) (places : Places first last scan) :
    Side (((credentialMachine authSchemes).step first c).1,
          (assignmentMachine secret rule).reach scan redacted)
        ((again secret rule).reach (last, settled scan)
          ((assignmentMachine secret rule).emit scan redacted)) ∧
      (again secret rule).emit (last, settled scan) ((assignmentMachine secret rule).emit scan redacted) =
        (assignmentMachine secret rule).emit scan redacted := by
  obtain ⟨pass, held⟩ := Option.ne_none_iff_exists'.mp taken
  have next := place_continued first c inside
  have seen_behind : ∀ place : Place, Fresh place.letters →
      Seen ((credentialMachine authSchemes).step first c).1 place := by
    intro place fresh
    rw [next]
    unfold Seen
    rw [held]
    simpa [start] using fresh
  have copied_marker : Seen first last →
      Seen ((credentialMachine authSchemes).step first c).1
          ((credentialMachine authSchemes).reach last redacted) ∧
        (credentialMachine authSchemes).emit last redacted = redacted := by
    intro seen
    unfold Seen at seen
    rw [held, if_pos start] at seen
    obtain ⟨read, written⟩ := marker_taken last seen
    refine ⟨seen_behind _ ?_, written⟩
    rw [read]
    exact fresh_redacted []
  cases scan with
  | text run =>
      obtain ⟨seen, empty, _⟩ := places
      obtain ⟨passed, written⟩ := copied_marker seen
      obtain ⟨read, copied⟩ := text_marker secret rule
      rw [empty start, read, copied]
      exact side_of secret rule written read copied ⟨passed, fun _ => rfl, fun _ => rfl⟩
  | gap =>
      obtain ⟨passed, written⟩ := copied_marker places.1
      obtain ⟨read, copied⟩ := gap_marker secret rule
      rw [read, copied]
      exact side_of secret rule written read copied ⟨passed, fun _ => rfl, fun _ => rfl⟩
  | value => exact absurd places.1 taken
  | quoted quote =>
      obtain ⟨read, silent⟩ := quoted_marker secret rule quote
      rw [read, silent]
      exact side_silent secret rule rfl places
  | unquoted rule' read => exact absurd places.2.2.1 taken
  | schemeGap =>
      obtain ⟨read, silent⟩ := scheme_marker secret rule
      rw [read, silent]
      exact side_silent secret rule rfl ⟨seen_behind last places.1.2, fun _ => rfl, fun _ => rfl⟩

theorem side_swallowed {c : Char} {scan : Scan} (taken : first.taken ≠ none) (further : first.letters ≠ [])
    (inside : isCredentialEnd c = false) (places : Places first last scan) :
    Side (((credentialMachine authSchemes).step first c).1, scan)
        ((again secret rule).reach (last, settled scan) []) ∧
      (again secret rule).emit (last, settled scan) [] = [] := by
  obtain ⟨pass, held⟩ := Option.ne_none_iff_exists'.mp taken
  apply side_silent secret rule rfl
  rw [place_continued first c inside]
  cases scan with
  | text run =>
      obtain ⟨seen, _, empty⟩ := places
      refine ⟨?_, fun _ => empty taken, fun _ => empty taken⟩
      unfold Seen at seen ⊢
      rw [held, if_neg further] at seen
      rw [held]
      simpa using seen
  | gap => exact absurd (places.2 further) taken
  | value => exact absurd places.1 taken
  | quoted quote => exact places
  | unquoted rule' read => exact absurd places.2.2.1 taken
  | schemeGap => exact absurd places.2 further

/-! One character and a whole run. -/

theorem side_step {c : Char} {scan : Scan} (places : Places first last scan)
    (copied : first.taken = none ∨ isCredentialEnd c = true) (marked : Marked rule (first, scan) c) :
    Side (((credentialMachine authSchemes).step first c).1, (scanStep secret rule scan c).1)
        ((again secret rule).reach (last, settled scan) (scanStep secret rule scan c).2) ∧
      (again secret rule).emit (last, settled scan) (scanStep secret rule scan c).2 =
        (scanStep secret rule scan c).2 := by
  cases scan with
  | text run => exact side_copied secret rule places.1 copied (textStep_copies secret run c)
  | gap => exact side_copied secret rule places.1 copied (gap_copies secret rule c)
  | value => exact side_value secret rule places marked
  | quoted quote => exact side_quoted secret rule places copied
  | unquoted rule' read => exact side_unquoted secret rule places
  | schemeGap => exact side_schemeGap secret rule places copied

theorem again_echoes : (again secret rule).Echoes (again secret rule) (Marked rule) Side := by
  rintro ⟨first, scan⟩ ⟨last, lastScan⟩ c ⟨settles, places⟩ marked
  change lastScan = settled scan at settles
  subst settles
  have step : (again secret rule).step (first, scan) c =
      ((((credentialMachine authSchemes).step first c).1,
        (assignmentMachine secret rule).reach scan ((credentialMachine authSchemes).step first c).2),
        (assignmentMachine secret rule).emit scan ((credentialMachine authSchemes).step first c).2) := rfl
  rw [step]
  by_cases copied : first.taken = none ∨ isCredentialEnd c = true
  · rw [place_copies first c copied, Machine.emit_single]
    exact side_step secret rule places copied marked
  · rw [not_or, Bool.not_eq_true] at copied
    obtain ⟨taken, inside⟩ := copied
    have written : ((credentialMachine authSchemes).step first c).2 =
        if first.letters.isEmpty then redacted else [] := by
      rw [credential_machine_step, credentialStep]
      simp [inside, taken]
    by_cases start : first.letters = []
    · rw [written, start]
      exact side_marker secret rule taken start inside places
    · rw [written, if_neg (by simpa using start)]
      exact side_swallowed secret rule taken start inside places

theorem side_start : Side (again secret rule).start (again secret rule).start :=
  ⟨rfl, ⟨rfl, fun _ => rfl⟩, fun _ => rfl, fun _ => rfl⟩

/-- The end of a text: only a value that is still awaited writes something. -/
theorem closing_echoes {first last : Place × Scan} (side : Side first last)
    (replaced : first.2 = .value → rule ≠ .plain) :
    (again secret rule).runFrom last ((again secret rule).finish first) =
      (again secret rule).finish first := by
  obtain ⟨place, scan⟩ := first
  obtain ⟨lastPlace, lastScan⟩ := last
  obtain ⟨settles, places⟩ := side
  change lastScan = settled scan at settles
  subst settles
  rw [again, Machine.compose_runFrom]
  cases scan with
  | value =>
      have marker := marker_copied lastPlace places.2.2.1
      have read := value_marker secret rule (replaced rfl)
      have copied : (credentialMachine authSchemes).runFrom lastPlace redacted = redacted := by
        rw [Machine.runFrom, marker.2, credential_machine_finish, List.append_nil]
      change (assignmentMachine secret rule).runFrom .value
        ((credentialMachine authSchemes).runFrom lastPlace redacted) = redacted
      rw [copied, Machine.runFrom, read.1, read.2]
      rfl
  | text run => rfl
  | gap => rfl
  | quoted quote => rfl
  | unquoted rule' read => rfl
  | schemeGap => rfl

theorem run_twice (input : Text) (along : (again secret rule).Along (Marked rule) (again secret rule).start input)
    (replaced : ((again secret rule).reach (again secret rule).start input).2 = .value → rule ≠ .plain) :
    (again secret rule).run ((again secret rule).run input) = (again secret rule).run input := by
  obtain ⟨side, written⟩ := (again_echoes secret rule).reaches (side_start secret rule) input along
  calc (again secret rule).run ((again secret rule).run input)
      = (again secret rule).emit (again secret rule).start
            ((again secret rule).emit (again secret rule).start input) ++
          (again secret rule).runFrom
            ((again secret rule).reach (again secret rule).start
              ((again secret rule).emit (again secret rule).start input))
            ((again secret rule).finish ((again secret rule).reach (again secret rule).start input)) := by
        rw [← Machine.runFrom_append]
        rfl
    _ = (again secret rule).run input := by
        rw [written, closing_echoes secret rule side replaced]
        rfl

end Scanner

end Missive.RedactionEchoes
