import Mathlib.Data.List.Induction
import Missive.Transducer
import Missive.TextRedaction

/-! The auth-scheme passes as machines that read a text once. A word is a
stretch without whitespace, `,` or `;`. A pass looks for a word that ends in its
scheme and is followed by one space, and replaces the word behind that space. -/
namespace Missive.AuthCredentials

open RustText TextRedaction Transducer

inductive Mode where
  | word (letters : Text)
  | scheme
  | credential
  deriving DecidableEq

def endsWithScheme (scheme letters : Text) : Bool :=
  (lowercase scheme).isSuffixOf (lowercase letters)

def authStep (scheme : Text) : Mode → Char → Mode × Text
  | .word letters, c =>
      if isCredentialEnd c then
        if c == ' ' && endsWithScheme scheme letters then (.scheme, [c]) else (.word [], [c])
      else (.word (letters ++ [c]), [c])
  | .scheme, c => if isCredentialEnd c then (.word [], [c]) else (.credential, redacted)
  | .credential, c => if isCredentialEnd c then (.word [], [c]) else (.credential, [])

def authMachine (scheme : Text) : Machine Mode Char Char where
  start := .word []
  step := authStep scheme
  finish := fun _ => []

@[simp] theorem auth_machine_step (scheme : Text) (mode : Mode) (c : Char) :
    (authMachine scheme).step mode c = authStep scheme mode c := rfl

@[simp] theorem auth_machine_finish (scheme : Text) (mode : Mode) :
    (authMachine scheme).finish mode = [] := rfl

/-- A scheme word is not empty and has no character that ends a credential. -/
def SchemeWord (scheme : Text) : Prop :=
  scheme ≠ [] ∧ ∀ c ∈ scheme, isCredentialEnd c = false

theorem lowercase_credential_end (c : Char) :
    isCredentialEnd (toAsciiLowercase c) = isCredentialEnd c :=
  lowercase_keeps isCredentialEnd (by decide) c

theorem alphanumeric_inside (c : Char) (plain : isAsciiAlphanumeric c = true) :
    isCredentialEnd c = false := by
  have codes := alphanumeric_codes c plain
  have comma : c ≠ ',' := by rintro rfl; simp at codes
  have semicolon : c ≠ ';' := by rintro rfl; simp at codes
  simp [isCredentialEnd, alphanumeric_not_whitespace c plain, comma, semicolon]

theorem lowercase_of_credential_end (c : Char) (closes : isCredentialEnd c = true) :
    toAsciiLowercase c = c := by
  apply lowercase_fixed
  by_contra letter
  rw [alphanumeric_inside c (eq_true_of_ne_false letter)] at closes
  contradiction

theorem lowercase_free (text : Text) (free : ∀ c ∈ text, isCredentialEnd c = false) :
    ∀ c ∈ lowercase text, isCredentialEnd c = false := by
  intro c member
  obtain ⟨original, present, rfl⟩ := List.mem_map.mp member
  rw [lowercase_credential_end]
  exact free original present

theorem needle_lowercase (scheme : Text) :
    lowercase (scheme ++ [' ']) = lowercase scheme ++ [' '] := by
  rw [lowercase_append]
  rfl

theorem needle_not_in_word (scheme letters : Text)
    (free : ∀ c ∈ letters, isCredentialEnd c = false) :
    find (lowercase letters) (lowercase (scheme ++ [' '])) = none := by
  apply find_none
  intro index _ hit
  rw [needle_lowercase] at hit
  have present : ' ' ∈ (lowercase letters).drop index := hit.subset (by simp)
  have space := lowercase_free letters free ' ' (List.mem_of_mem_drop present)
  contradiction

section Pass

variable {scheme : Text} (valid : SchemeWord scheme)
include valid

-- Where the needle can start inside a word, up to the character that ends the word.
theorem needle_in_word (letters rest : Text) (c : Char) (index : Nat)
    (free : ∀ c ∈ letters, isCredentialEnd c = false) (closes : isCredentialEnd c = true)
    (inside : index ≤ letters.length) :
    lowercase (scheme ++ [' ']) <+: (lowercase letters ++ c :: rest).drop index ↔
      lowercase scheme = (lowercase letters).drop index ∧ ' ' = c := by
  rw [needle_lowercase, List.drop_append_of_le_length (by simpa using inside)]
  apply stop_aligned isCredentialEnd
  · exact lowercase_free scheme valid.2
  · intro d member
    exact lowercase_free letters free d (List.mem_of_mem_drop member)
  · decide
  · exact closes

/-- One turn of the search, seen from the middle of a word: either no scheme
word follows and the machine copies the text, or the machine copies up to and
including the space behind the first one. -/
theorem search_exact (letters text : Text)
    (free : ∀ c ∈ letters, isCredentialEnd c = false) :
    (findAsciiCaseInsensitive (letters ++ text) (scheme ++ [' ']) = none ∧
      (authMachine scheme).runFrom (.word letters) text = text) ∨
    ∃ before after index, text = before ++ after ∧
      findAsciiCaseInsensitive (letters ++ text) (scheme ++ [' ']) = some index ∧
      index + (scheme ++ [' ']).length = letters.length + before.length ∧
      (authMachine scheme).emit (.word letters) before = before ∧
      (authMachine scheme).reach (.word letters) before = .scheme := by
  induction text generalizing letters with
  | nil =>
      left
      exact ⟨by simpa [findAsciiCaseInsensitive] using needle_not_in_word scheme letters free, rfl⟩
  | cons c text ih =>
      by_cases closes : isCredentialEnd c = true
      · have split : lowercase (letters ++ c :: text) =
            lowercase letters ++ c :: lowercase text := by
          rw [lowercase_append]
          simp [lowercase, lowercase_of_credential_end c closes]
        by_cases hit : c = ' ' ∧ endsWithScheme scheme letters = true
        · obtain ⟨rfl, suffix⟩ := hit
          have tail : lowercase scheme <:+ lowercase letters := List.isSuffixOf_iff_suffix.mp suffix
          have short : scheme.length ≤ letters.length := by simpa using tail.length_le
          have aligned : lowercase scheme =
              (lowercase letters).drop (letters.length - scheme.length) := by
            simpa using List.suffix_iff_eq_drop.mp tail
          right
          refine ⟨[' '], text, letters.length - scheme.length, rfl, ?_, ?_, ?_, ?_⟩
          · rw [findAsciiCaseInsensitive, split]
            apply find_first
            · simp; omega
            · exact (needle_in_word valid letters _ ' ' _ free closes (by omega)).mpr ⟨aligned, rfl⟩
            · intro earlier smaller starts
              have other := ((needle_in_word valid letters _ ' ' earlier free closes
                (by omega)).mp starts).1
              have lengths := congrArg List.length other
              simp only [length_lowercase, List.length_drop] at lengths
              omega
          · simp; omega
          · simp [authStep, closes, suffix]
          · simp [authStep, closes, suffix]
        · have absent : ∀ index ≤ (lowercase letters).length,
              ¬ lowercase (scheme ++ [' ']) <+:
                (lowercase letters ++ c :: lowercase text).drop index := by
            intro index bound starts
            obtain ⟨aligned, space⟩ := (needle_in_word valid letters _ c index free closes
              (by simpa using bound)).mp starts
            apply hit
            refine ⟨space.symm, List.isSuffixOf_iff_suffix.mpr ?_⟩
            rw [aligned]
            exact List.drop_suffix _ _
          have skipped := find_skip _ _ _ _ absent
          have stepped : authStep scheme (.word letters) c = (.word [], [c]) := by
            have blocked : (c == ' ' && endsWithScheme scheme letters) = false := by
              simpa using hit
            simp [authStep, closes, blocked]
          rcases ih [] (by simp) with ⟨none, copied⟩ | ⟨before, after, index, parts, found, ends,
            written, reached⟩
          · left
            have none' : find (lowercase text) (lowercase (scheme ++ [' '])) = Option.none := none
            refine ⟨?_, ?_⟩
            · rw [findAsciiCaseInsensitive, split, skipped, none', Option.map_none]
            · simpa [stepped] using copied
          · right
            have found' : find (lowercase text) (lowercase (scheme ++ [' '])) = some index := found
            refine ⟨c :: before, after, index + (letters.length + 1), by simp [parts], ?_, ?_, ?_, ?_⟩
            · rw [findAsciiCaseInsensitive, split, skipped, found', Option.map_some,
                length_lowercase]
            · simp only [List.length_cons, List.length_nil] at ends ⊢
              omega
            · simpa [stepped] using written
            · simpa [stepped] using reached
      · have open' : isCredentialEnd c = false := by simpa using closes
        have joined : letters ++ c :: text = (letters ++ [c]) ++ text := by simp
        have stepped : authStep scheme (.word letters) c = (.word (letters ++ [c]), [c]) := by
          simp [authStep, open']
        rw [joined]
        rcases ih (letters ++ [c]) (by
            intro d member
            rcases List.mem_append.mp member with old | new
            · exact free d old
            · rw [List.mem_singleton.mp new]
              exact open') with
          ⟨none, copied⟩ | ⟨before, after, index, parts, found, ends, written, reached⟩
        · left
          exact ⟨none, by simpa [stepped] using copied⟩
        · right
          refine ⟨c :: before, after, index, by simp [parts], found, ?_, ?_, ?_⟩
          · simp only [List.length_append, List.length_cons, List.length_nil] at ends ⊢
            omega
          · simpa [stepped] using written
          · simpa [stepped] using reached

-- Behind a word the search starts afresh: no scheme word is empty.
theorem no_scheme_yet : endsWithScheme scheme [] = false := by
  by_contra suffix
  have shrunk := (List.isSuffixOf_iff_suffix.mp (eq_true_of_ne_false suffix)).length_le
  simp only [length_lowercase, List.length_nil, Nat.le_zero_eq] at shrunk
  exact valid.1 (List.length_eq_zero_iff.mp shrunk)

theorem credential_skipped (text : Text) :
    (authMachine scheme).runFrom .credential text =
      (authMachine scheme).runFrom (.word []) (text.drop (text.findIdx isCredentialEnd)) := by
  induction text with
  | nil => rfl
  | cons c rest ih =>
      by_cases closes : isCredentialEnd c = true
      · simp [List.findIdx_cons, closes, authStep, no_scheme_yet valid]
      · have open' : isCredentialEnd c = false := by simpa using closes
        simpa [List.findIdx_cons, open', authStep] using ih

theorem scheme_skipped (text : Text) :
    (authMachine scheme).runFrom .scheme text =
      (if text.findIdx isCredentialEnd > 0 then redacted else []) ++
        (authMachine scheme).runFrom (.word []) (text.drop (text.findIdx isCredentialEnd)) := by
  cases text with
  | nil => rfl
  | cons c rest =>
      by_cases closes : isCredentialEnd c = true
      · simp [List.findIdx_cons, closes, authStep, no_scheme_yet valid]
      · have open' : isCredentialEnd c = false := by simpa using closes
        have tail := credential_skipped valid rest
        simpa [List.findIdx_cons, open', authStep] using tail

/-- The pass machine computes `redact_after_auth_scheme`. -/
theorem auth_machine_exact (input : Text) :
    (authMachine scheme).run input = redactAfterAuthScheme input scheme := by
  induction measured : input.length using Nat.strongRecOn generalizing input with
  | _ size ih =>
      rw [redactAfterAuthScheme]
      rcases search_exact valid [] input (by simp) with
        ⟨none, copied⟩ | ⟨before, after, index, parts, found, ends, written, reached⟩
      · split
        · exact copied
        · rename_i other found
          rw [List.nil_append] at none
          rw [none] at found
          contradiction
      · rw [List.nil_append] at found
        simp only [List.length_nil, Nat.zero_add] at ends
        split
        · rename_i none
          rw [none] at found
          contradiction
        · rename_i other found'
          obtain rfl : index = other := Option.some.inj (found.symm.trans found')
          have taken : input.take (index + (scheme ++ [' ']).length) = before := by
            rw [ends, parts, List.take_left]
          have dropped : input.drop (index + (scheme ++ [' ']).length) = after := by
            rw [ends, parts, List.drop_left]
          have shorter : (after.drop (after.findIdx isCredentialEnd)).length < size := by
            have total : input.length = before.length + after.length := by simp [parts]
            have needle : 0 < (scheme ++ [' ']).length := by simp
            rw [List.length_drop]
            omega
          have next := ih _ shorter _ rfl
          simp only [taken, dropped, ← next]
          calc (authMachine scheme).run input
              = (authMachine scheme).runFrom (.word []) (before ++ after) := by rw [← parts]; rfl
            _ = before ++ (authMachine scheme).runFrom .scheme after := by
                rw [Machine.runFrom_append, written, reached]
            _ = _ := by rw [scheme_skipped valid, List.append_assoc]; rfl

end Pass

/-! The passes run one after another, and a pass may replace the very word that
a later pass would have recognised. One left-to-right reading describes the
whole sequence: a word ends in at most one scheme, and the word behind it is a
credential unless that scheme word was itself taken by the same or an earlier
pass. -/

/-- The place in the list of the scheme that a word ends in. -/
def rank (schemes : List Text) (letters : Text) : Option Nat :=
  schemes.findIdx? fun scheme => endsWithScheme scheme letters

/-- The word being read and the pass, if any, that takes it for a credential. -/
structure Place where
  letters : Text
  taken : Option Nat
  deriving DecidableEq

def opens (schemes : List Text) (place : Place) : Option Nat :=
  (rank schemes place.letters).filter fun pass => place.taken.all (pass < ·)

def credentialStep (schemes : List Text) (place : Place) (c : Char) : Place × Text :=
  if isCredentialEnd c then
    (⟨[], if c == ' ' then opens schemes place else none⟩, [c])
  else
    (⟨place.letters ++ [c], place.taken⟩,
      if place.taken.isNone then [c] else if place.letters.isEmpty then redacted else [])

def credentialMachine (schemes : List Text) : Machine Place Char Char where
  start := ⟨[], none⟩
  step := credentialStep schemes
  finish := fun _ => []

@[simp] theorem credential_machine_step (schemes : List Text) (place : Place) (c : Char) :
    (credentialMachine schemes).step place c = credentialStep schemes place c := by
  simp only [credentialMachine]

@[simp] theorem credential_machine_finish (schemes : List Text) (place : Place) :
    (credentialMachine schemes).finish place = [] := rfl

/-- The scheme words of one redactor: no two of them can end the same word, and
the replacement text ends in none of them. -/
structure SchemeList (schemes : List Text) : Prop where
  words : ∀ scheme ∈ schemes, SchemeWord scheme
  inert : ∀ scheme ∈ schemes, ¬ lowercase scheme <:+ lowercase redacted
  exclusive : schemes.Pairwise fun first last =>
    ¬ lowercase first <:+ lowercase last ∧ ¬ lowercase last <:+ lowercase first

theorem SchemeList.init {schemes : List Text} {scheme : Text}
    (valid : SchemeList (schemes ++ [scheme])) : SchemeList schemes where
  words := fun other member => valid.words other (List.mem_append_left _ member)
  inert := fun other member => valid.inert other (List.mem_append_left _ member)
  exclusive := (List.pairwise_append.mp valid.exclusive).1

theorem rank_append (schemes : List Text) (scheme letters : Text) :
    rank (schemes ++ [scheme]) letters =
      (rank schemes letters).or
        (if endsWithScheme scheme letters then some schemes.length else none) := by
  unfold rank
  rw [List.findIdx?_append]
  congr 1
  cases suffix : endsWithScheme scheme letters <;> simp [List.findIdx?_cons, suffix]

theorem rank_congr (schemes : List Text) (letters other : Text)
    (same : ∀ scheme ∈ schemes, endsWithScheme scheme letters = endsWithScheme scheme other) :
    rank schemes letters = rank schemes other := by
  unfold rank
  induction schemes with
  | nil => rfl
  | cons scheme rest ih =>
      have head := same scheme List.mem_cons_self
      have tail := ih (fun next member => same next (List.mem_cons_of_mem scheme member))
      simp only [List.findIdx?_cons, head, tail]

theorem rank_lt (schemes : List Text) (letters : Text) (place : Nat)
    (found : rank schemes letters = some place) : place < schemes.length :=
  (List.findIdx?_eq_some_iff_getElem.mp found).1

theorem rank_nil (schemes : List Text) (valid : SchemeList schemes) : rank schemes [] = none := by
  apply List.findIdx?_eq_none_iff.mpr
  intro scheme member
  exact no_scheme_yet (valid.words scheme member)

theorem last_excluded {schemes : List Text} {scheme : Text}
    (valid : SchemeList (schemes ++ [scheme])) (letters : Text) (place : Nat)
    (found : rank schemes letters = some place) : endsWithScheme scheme letters = false := by
  obtain ⟨bound, hit, _⟩ := List.findIdx?_eq_some_iff_getElem.mp found
  have apart := (List.pairwise_append.mp valid.exclusive).2.2 schemes[place]
    (List.getElem_mem bound) scheme (by simp)
  by_contra suffix
  have left := List.isSuffixOf_iff_suffix.mp hit
  have right := List.isSuffixOf_iff_suffix.mp (eq_true_of_ne_false suffix)
  rcases List.suffix_or_suffix_of_suffix left right with shorter | longer
  · exact apart.1 shorter
  · exact apart.2 longer

theorem redacted_free : ∀ c ∈ redacted, isCredentialEnd c = false :=
  absent_from (by decide)

theorem word_copied (scheme letters text : Text)
    (free : ∀ c ∈ text, isCredentialEnd c = false) :
    (authMachine scheme).reach (.word letters) text = .word (letters ++ text) ∧
      (authMachine scheme).emit (.word letters) text = text := by
  induction text generalizing letters with
  | nil => simp
  | cons c rest ih =>
      have head := free c List.mem_cons_self
      have tail := ih (letters ++ [c]) (fun d member => free d (List.mem_cons_of_mem c member))
      simpa [authStep, head] using tail

/-- The states of `schemes` followed by one more pass, and of the longer list. -/
inductive Follows (pass : Nat) : Place × Mode → Place → Prop
  | plain (letters) : Follows pass (⟨letters, none⟩, .word letters) ⟨letters, none⟩
  | pending (earlier) : earlier < pass →
      Follows pass (⟨[], some earlier⟩, .word []) ⟨[], some earlier⟩
  | earlier (letters earlier) : letters ≠ [] → earlier < pass →
      Follows pass (⟨letters, some earlier⟩, .word redacted) ⟨letters, some earlier⟩
  | opened : Follows pass (⟨[], none⟩, .scheme) ⟨[], some pass⟩
  | taken (letters) : letters ≠ [] →
      Follows pass (⟨letters, none⟩, .credential) ⟨letters, some pass⟩

theorem follows_letter (schemes : List Text) (scheme : Text) (c : Char) (inside : isCredentialEnd c = false)
    {state : Place × Mode} {place : Place} (related : Follows schemes.length state place) :
    Follows schemes.length
        (((credentialMachine schemes).compose (authMachine scheme)).step state c).1
        (credentialStep (schemes ++ [scheme]) place c).1 ∧
      (((credentialMachine schemes).compose (authMachine scheme)).step state c).2 =
        (credentialStep (schemes ++ [scheme]) place c).2 := by
  cases related with
  | plain letters =>
      simp only [Machine.compose, credential_machine_step, credentialStep, inside]
      simpa [authStep, inside] using Follows.plain (letters ++ [c])
  | pending earlier before =>
      have copied := word_copied scheme [] redacted redacted_free
      simp only [Machine.compose, credential_machine_step, credentialStep, inside]
      simpa [copied] using Follows.earlier [c] earlier (by simp) before
  | earlier letters earlier nonempty before =>
      simp only [Machine.compose, credential_machine_step, credentialStep, inside]
      simpa [nonempty] using Follows.earlier (letters ++ [c]) earlier (by simp) before
  | opened =>
      simp only [Machine.compose, credential_machine_step, credentialStep, inside]
      simpa [authStep, inside] using Follows.taken [c] (by simp)
  | taken letters nonempty =>
      simp only [Machine.compose, credential_machine_step, credentialStep, inside]
      simpa [authStep, inside, nonempty] using Follows.taken (letters ++ [c]) (by simp)

section OneMorePass

variable {schemes : List Text} {scheme : Text} (valid : SchemeList (schemes ++ [scheme]))
include valid

-- At the end of a word only the credential that the next word may open matters.
theorem follows_break (c : Char) (closes : isCredentialEnd c = true)
    {state : Place × Mode} {place : Place} (related : Follows schemes.length state place) :
    Follows schemes.length
      (⟨[], if c == ' ' then opens schemes state.1 else none⟩, (authStep scheme state.2 c).1)
      ⟨[], if c == ' ' then opens (schemes ++ [scheme]) place else none⟩ := by
  have fresh : rank schemes [] = none := rank_nil schemes valid.init
  have fresh' : rank (schemes ++ [scheme]) [] = none := rank_nil _ valid
  have unstarted : endsWithScheme scheme [] = false := no_scheme_yet (valid.words scheme (by simp))
  have replaced : endsWithScheme scheme redacted = false := by
    by_contra suffix
    exact valid.inert scheme (by simp) (List.isSuffixOf_iff_suffix.mp (eq_true_of_ne_false suffix))
  by_cases space : c = ' '
  · subst space
    cases related with
    | plain letters =>
        cases found : rank schemes letters with
        | some earlier =>
            have other := last_excluded valid letters earlier found
            simpa [opens, rank_append, found, authStep, closes, other, Option.filter_some] using
              Follows.pending earlier (rank_lt schemes letters earlier found)
        | none =>
            cases hit : endsWithScheme scheme letters with
            | true =>
                simpa [opens, rank_append, found, hit, authStep, closes, Option.filter_some] using
                  Follows.opened
            | false =>
                simpa [opens, rank_append, found, hit, authStep, closes] using Follows.plain []
    | pending earlier before =>
        simpa [opens, fresh, fresh', authStep, closes, unstarted] using Follows.plain []
    | earlier letters earlier nonempty before =>
        cases found : rank schemes letters with
        | some other =>
            by_cases sooner : other < earlier
            · simpa [opens, rank_append, found, authStep, closes, replaced, sooner,
                Option.filter_some] using
                Follows.pending other (rank_lt schemes letters other found)
            · simpa [opens, rank_append, found, authStep, closes, replaced, sooner,
                Option.filter_some] using Follows.plain []
        | none =>
            have late : ¬ schemes.length < earlier := by omega
            cases hit : endsWithScheme scheme letters <;>
              simpa [opens, rank_append, found, hit, authStep, closes, replaced, late,
                Option.filter_some] using Follows.plain []
    | opened => simpa [opens, fresh, fresh', authStep, closes] using Follows.plain []
    | taken letters nonempty =>
        cases found : rank schemes letters with
        | some earlier =>
            have before := rank_lt schemes letters earlier found
            simpa [opens, rank_append, found, authStep, closes, before, Option.filter_some] using
              Follows.pending earlier before
        | none =>
            cases hit : endsWithScheme scheme letters <;>
              simpa [opens, rank_append, found, hit, authStep, closes, Option.filter_some] using
                Follows.plain []
  · cases related <;> simpa [space, authStep, closes] using Follows.plain []

theorem one_more_pass :
    Machine.Simulates ((credentialMachine schemes).compose (authMachine scheme))
      (credentialMachine (schemes ++ [scheme])) (Follows schemes.length) where
  start := Follows.plain []
  step := by
    intro state place c related
    by_cases closes : isCredentialEnd c = true
    · have next := follows_break valid c closes related
      have written : (authStep scheme state.2 c).2 = [c] := by
        cases related <;> simp [authStep, closes] <;> split <;> rfl
      obtain ⟨outer, inner⟩ := state
      simp only [Machine.compose, credential_machine_step, credentialStep, closes, if_true]
      exact ⟨by simpa using next, by simpa using written⟩
    · exact follows_letter schemes scheme c (by simpa using closes) related
  finish := by
    intro state place related
    rfl

end OneMorePass

theorem no_pass_copies (letters input : Text) :
    (credentialMachine []).runFrom ⟨letters, none⟩ input = input := by
  induction input generalizing letters with
  | nil => rfl
  | cons c rest ih =>
      by_cases closes : isCredentialEnd c = true
      · simp [credentialStep, closes, opens, rank, ih]
      · simp [credentialStep, closes, ih]

/-- One reading of the text computes all passes of a redactor. -/
theorem credential_machine_exact (schemes : List Text) (valid : SchemeList schemes)
    (input : Text) : (credentialMachine schemes).run input = redactAuthSchemes schemes input := by
  induction schemes using List.reverseRecOn with
  | nil => exact no_pass_copies [] input
  | append_singleton schemes scheme ih =>
      rw [← (one_more_pass valid).runs_alike, Machine.compose_run, ih valid.init,
        auth_machine_exact (valid.words scheme (by simp)), redactAuthSchemes, redactAuthSchemes,
        List.foldl_append]
      rfl

theorem auth_schemes_valid : SchemeList authSchemes where
  words := by
    have checked : ∀ scheme ∈ authSchemes, scheme ≠ [] ∧ scheme.any isCredentialEnd = false := by
      decide
    intro scheme listed
    exact ⟨(checked scheme listed).1, absent_from (checked scheme listed).2⟩
  inert := by decide
  exclusive := by decide

theorem config_schemes_valid : SchemeList configAuthSchemes :=
  SchemeList.init (show SchemeList (configAuthSchemes ++ ["Api-Key".toList]) from
    auth_schemes_valid)

/-! What the reading makes of a word, of the blanks before it and of the text behind it. -/

-- A value of the two-run statements.
def isPlainValue (value : Text) : Bool := !value.isEmpty && value.all isAsciiAlphanumeric

-- The text behind a value: empty, or starting with `,` or `;`.
def closesValue (post : Text) : Bool := post.head?.all fun c => c == ',' || c == ';'

theorem plain_value_parts (value : Text) (plain : isPlainValue value = true) :
    value ≠ [] ∧ ∀ c ∈ value, isAsciiAlphanumeric c = true := by
  simpa [isPlainValue] using plain

theorem word_read (schemes : List Text) (place : Place) (word : Text)
    (free : ∀ c ∈ word, isCredentialEnd c = false) :
    (credentialMachine schemes).reach place word = ⟨place.letters ++ word, place.taken⟩ := by
  induction word generalizing place with
  | nil => simp
  | cons c rest ih =>
      have head := free c List.mem_cons_self
      have tail := ih ⟨place.letters ++ [c], place.taken⟩
        (fun d member => free d (List.mem_cons_of_mem c member))
      simpa [credentialStep, head] using tail

theorem plain_word_written (schemes : List Text) (letters word : Text)
    (free : ∀ c ∈ word, isCredentialEnd c = false) :
    (credentialMachine schemes).emit ⟨letters, none⟩ word = word := by
  induction word generalizing letters with
  | nil => rfl
  | cons c rest ih =>
      have head := free c List.mem_cons_self
      have tail := ih (letters ++ [c]) (fun d member => free d (List.mem_cons_of_mem c member))
      simpa [credentialStep, head] using tail

theorem taken_word_silent (schemes : List Text) (letters word : Text) (pass : Nat)
    (started : letters ≠ []) (free : ∀ c ∈ word, isCredentialEnd c = false) :
    (credentialMachine schemes).emit ⟨letters, some pass⟩ word = [] := by
  induction word generalizing letters with
  | nil => rfl
  | cons c rest ih =>
      have head := free c List.mem_cons_self
      have tail := ih (letters ++ [c]) (by simp)
        (fun d member => free d (List.mem_cons_of_mem c member))
      simpa [credentialStep, head, started] using tail

theorem taken_word_written (schemes : List Text) (word : Text) (pass : Nat)
    (nonempty : word ≠ []) (free : ∀ c ∈ word, isCredentialEnd c = false) :
    (credentialMachine schemes).emit ⟨[], some pass⟩ word = redacted := by
  cases word with
  | nil => contradiction
  | cons c rest =>
      have head := free c List.mem_cons_self
      have tail := taken_word_silent schemes [c] rest pass (by simp)
        (fun d member => free d (List.mem_cons_of_mem c member))
      simpa [credentialStep, head] using tail

theorem closing_resets (schemes : List Text) (place : Place) (post : Text)
    (closed : closesValue post = true) :
    (credentialMachine schemes).runFrom place post =
      (credentialMachine schemes).runFrom ⟨[], none⟩ post := by
  cases post with
  | nil => rfl
  | cons c rest =>
      have stop : c = ',' ∨ c = ';' := by simpa [closesValue] using closed
      rcases stop with rfl | rfl <;> simp [credentialStep, isCredentialEnd]

-- What the passes make of a value read at this place.
def Place.valueText (place : Place) (value : Text) : Text :=
  if place.taken.isNone then value else if place.letters.isEmpty then redacted else []

/-- What the passes write for a value and the text behind it depends on the value
only if no pass takes it. -/
theorem value_written (schemes : List Text) (place : Place) (value post : Text)
    (plain : isPlainValue value = true) (closed : closesValue post = true) :
    (credentialMachine schemes).runFrom place (value ++ post) =
      place.valueText value ++ (credentialMachine schemes).runFrom ⟨[], none⟩ post := by
  obtain ⟨nonempty, letters⟩ := plain_value_parts value plain
  have free : ∀ c ∈ value, isCredentialEnd c = false :=
    fun c member => alphanumeric_inside c (letters c member)
  rw [Machine.runFrom_append, closing_resets schemes _ post closed]
  obtain ⟨before, taken⟩ := place
  cases taken with
  | none => simp [Place.valueText, plain_word_written schemes before value free]
  | some pass =>
      cases before with
      | nil => simp [Place.valueText, taken_word_written schemes value pass nonempty free]
      | cons c before =>
          simp [Place.valueText, taken_word_silent schemes (c :: before) value pass (by simp) free]

-- Behind a blank a credential is expected only after exactly one space.
theorem blanks_read (schemes : List Text) (valid : SchemeList schemes) (place : Place)
    (blanks : Text) (nonempty : blanks ≠ []) (blank : ∀ c ∈ blanks, isWhitespace c = true) :
    (credentialMachine schemes).reach place blanks =
      ⟨[], if blanks = [' '] then opens schemes place else none⟩ := by
  induction blanks generalizing place with
  | nil => contradiction
  | cons c rest ih =>
      have closes : isCredentialEnd c = true := by simp [isCredentialEnd, blank c]
      cases rest with
      | nil =>
          by_cases space : c = ' '
          · subst space
            simp [credentialStep, closes]
          · simp [credentialStep, closes, space]
      | cons d rest =>
          have tail := ih ⟨[], if c == ' ' then opens schemes place else none⟩ (by simp)
            (fun e member => blank e (List.mem_cons_of_mem c member))
          have fresh : ∀ taken, opens schemes ⟨[], taken⟩ = none := by
            intro taken
            simp [opens, rank_nil schemes valid]
          rw [Machine.reach_cons]
          simpa [credentialStep, closes, fresh] using tail

/-! The credential behind a scheme word, for the three redactors of free text. -/

-- One of the five scheme words, in any letter case.
def isSchemeWord (scheme : Text) : Bool :=
  authSchemes.any fun listed => lowercase listed == lowercase scheme

/-- The pass, if any, that takes the word at the end of `pre` for a credential. -/
def takenBy (schemes : List Text) (pre : Text) : Option Nat :=
  ((credentialMachine schemes).reach (credentialMachine schemes).start pre).taken

/-- One space follows, `redact_config_text` knows the scheme, and the word that
ends in it is not itself replaced by the same or an earlier pass. -/
def SchemeRecognised (pre scheme blanks : Text) : Prop :=
  blanks = [' '] ∧ ∃ pass, rank configAuthSchemes scheme = some pass ∧
    (takenBy configAuthSchemes pre).all (pass < ·) = true

/-- No choice of the credential shows in the output of any of the redactors. -/
def CredentialHidden (pre scheme blanks post : Text) : Prop :=
  ∀ credential other, isPlainValue credential = true → isPlainValue other = true →
    outputRedactText (pre ++ scheme ++ blanks ++ credential ++ post) =
        outputRedactText (pre ++ scheme ++ blanks ++ other ++ post) ∧
      observeRedactText (pre ++ scheme ++ blanks ++ credential ++ post) =
        observeRedactText (pre ++ scheme ++ blanks ++ other ++ post) ∧
      redactConfigText (pre ++ scheme ++ blanks ++ credential ++ post) =
        redactConfigText (pre ++ scheme ++ blanks ++ other ++ post)

theorem scheme_words_apart : ∀ first ∈ authSchemes, ∀ last ∈ authSchemes,
    lowercase last <:+ lowercase first → lowercase first = lowercase last := by decide

-- The letters before a scheme word do not matter to which scheme ends the word.
theorem rank_of_scheme_word (letters scheme : Text) (listed : isSchemeWord scheme = true) :
    rank configAuthSchemes (letters ++ scheme) = rank configAuthSchemes scheme := by
  obtain ⟨word, member, same⟩ := List.any_eq_true.mp listed
  have same : lowercase word = lowercase scheme := by simpa using same
  apply rank_congr
  intro other known
  have known : other ∈ authSchemes := List.mem_append_left [_] known
  rw [Bool.eq_iff_iff]
  simp only [endsWithScheme, List.isSuffixOf_iff_suffix, lowercase_append]
  constructor
  · intro long
    rcases List.suffix_or_suffix_of_suffix long (List.suffix_append _ (lowercase scheme)) with
      inside | longer
    · exact inside
    · have equal : lowercase other = lowercase scheme :=
        (scheme_words_apart other known word member (same ▸ longer)).trans same
      exact equal ▸ List.suffix_rfl
  · intro short
    exact short.trans (List.suffix_append _ _)

theorem scheme_word_free (scheme : Text) (listed : isSchemeWord scheme = true) :
    ∀ c ∈ scheme, isCredentialEnd c = false := by
  obtain ⟨word, member, same⟩ := List.any_eq_true.mp listed
  have same : lowercase word = lowercase scheme := by simpa using same
  intro c inside
  have lowered : toAsciiLowercase c ∈ lowercase word := by
    rw [same]
    exact List.mem_map_of_mem inside
  rw [← lowercase_credential_end]
  exact lowercase_free word (auth_schemes_valid.words word member).2 _ lowered

-- The state in which a credential behind the scheme word is read.
theorem scheme_read (pre scheme blanks : Text) (listed : isSchemeWord scheme = true)
    (nonempty : blanks ≠ []) (blank : ∀ c ∈ blanks, isWhitespace c = true) :
    ∃ taken, (credentialMachine configAuthSchemes).reach
        (credentialMachine configAuthSchemes).start (pre ++ scheme ++ blanks) = ⟨[], taken⟩ ∧
      (taken.isSome ↔ SchemeRecognised pre scheme blanks) := by
  refine ⟨if blanks = [' '] then
    (rank configAuthSchemes scheme).filter fun pass =>
      (takenBy configAuthSchemes pre).all (pass < ·)
    else none, ?_, ?_⟩
  · rw [Machine.reach_append, Machine.reach_append,
      word_read _ _ scheme (scheme_word_free scheme listed),
      blanks_read _ config_schemes_valid _ blanks nonempty blank, opens,
      rank_of_scheme_word _ scheme listed, takenBy]
  · by_cases single : blanks = [' ']
    · cases found : rank configAuthSchemes scheme <;> simp [SchemeRecognised, single, found]
    · simp [SchemeRecognised, single]

theorem config_text_written (pre scheme blanks post : Text) (listed : isSchemeWord scheme = true)
    (nonempty : blanks ≠ []) (blank : ∀ c ∈ blanks, isWhitespace c = true)
    (closed : closesValue post = true) :
    ∃ taken : Option Nat, ∃ before after, (taken.isSome ↔ SchemeRecognised pre scheme blanks) ∧
      ∀ value, isPlainValue value = true →
        redactConfigText (pre ++ scheme ++ blanks ++ value ++ post) =
          before ++ (if taken.isNone then value else redacted) ++ after := by
  obtain ⟨taken, reached, recognised⟩ := scheme_read pre scheme blanks listed nonempty blank
  refine ⟨taken, (credentialMachine configAuthSchemes).emit
    (credentialMachine configAuthSchemes).start (pre ++ scheme ++ blanks),
    (credentialMachine configAuthSchemes).runFrom ⟨[], none⟩ post, recognised, ?_⟩
  intro value plain
  rw [redactConfigText, ← credential_machine_exact _ config_schemes_valid,
    List.append_assoc _ value, Machine.run, Machine.runFrom_append, reached,
    value_written _ _ _ _ plain closed]
  exact (List.append_assoc _ _ _).symm

-- The first four passes of the other two redactors are those of `redact_config_text`.
theorem redact_schemes_after_config (input : Text) :
    redactAuthSchemes authSchemes input =
      redactAfterAuthScheme (redactConfigText input) "Api-Key".toList := rfl

/-- The three redactors hide the credential behind a scheme word exactly when
the word is recognised. -/
theorem credential_hidden_iff (pre scheme blanks post : Text) (listed : isSchemeWord scheme = true)
    (nonempty : blanks ≠ []) (blank : ∀ c ∈ blanks, isWhitespace c = true)
    (closed : closesValue post = true) :
    CredentialHidden pre scheme blanks post ↔ SchemeRecognised pre scheme blanks := by
  obtain ⟨taken, before, after, recognised, written⟩ :=
    config_text_written pre scheme blanks post listed nonempty blank closed
  rw [← recognised]
  constructor
  · intro hidden
    by_contra missed
    have same := (hidden ['a'] ['b'] (by decide) (by decide)).2.2
    rw [written _ (by decide), written _ (by decide)] at same
    simp [Option.not_isSome_iff_eq_none.mp missed] at same
  · intro holds credential other plain otherPlain
    obtain ⟨pass, rfl⟩ := Option.isSome_iff_exists.mp holds
    have config : redactConfigText (pre ++ scheme ++ blanks ++ credential ++ post) =
        redactConfigText (pre ++ scheme ++ blanks ++ other ++ post) := by
      rw [written credential plain, written other otherPlain]
      rfl
    refine ⟨?_, ?_, config⟩
    · rw [outputRedactText, outputRedactText, redact_schemes_after_config,
        redact_schemes_after_config, config]
    · rw [observeRedactText, observeRedactText, redact_schemes_after_config,
        redact_schemes_after_config, config]

-- The scheme word behind another one, in lower case and inside a longer word.
theorem credential_hidden_behind_two_schemes :
    CredentialHidden "x ApiKey y-".toList "token".toList [' '] ", z".toList :=
  (credential_hidden_iff "x ApiKey y-".toList "token".toList [' '] ", z".toList (by decide)
    (by decide) (List.all_eq_true.mp (by decide)) (by decide)).mpr
    ⟨rfl, 2, by decide, by decide⟩

-- Two spaces, a scheme missing from the config redactor, and a repeated scheme word.
theorem credential_shown :
    (¬ CredentialHidden [] "Bearer".toList [' ', ' '] []) ∧
      (¬ CredentialHidden [] "Api-Key".toList [' '] []) ∧
      ¬ CredentialHidden "Token ".toList "Token".toList [' '] [] := by
  refine ⟨fun hidden => ?_, fun hidden => ?_, fun hidden => ?_⟩
  · exact absurd (hidden ['a'] ['b'] (by decide) (by decide)).1 (by decide +kernel)
  · exact absurd (hidden ['a'] ['b'] (by decide) (by decide)).2.2 (by decide +kernel)
  · exact absurd (hidden ['a'] ['b'] (by decide) (by decide)).1 (by decide +kernel)

end Missive.AuthCredentials
