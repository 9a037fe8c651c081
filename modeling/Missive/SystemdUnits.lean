import Mathlib.Data.List.DropRight
import Missive.PercentEncoding
import Missive.RustText

/-! Unit files of systemd, read as its documentation says: lines and what continues them, sections
and assignments, quotes and C-style escapes, specifiers, and the variables of command lines. -/
namespace Missive.SystemdUnits

open RustText (Text)
open PercentEncoding (hexValue)

/-- What the documentation leaves to the version and to the host: which characters end a line
besides the line feed, what the letters after a percent sign stand for, and the variables that the
manager passes on. -/
structure Host where
  endsLine : Char → Bool
  specifier : Char → Option Text
  manager : Text → Option Text
  endings : ∀ c, endsLine c = true → c = '\r' ∨ c = '\x00'
  letters : ∀ c, (specifier c).isSome = true → c.isAlpha = true

/-! Lines. -/

def isSpace (c : Char) : Bool := c = ' ' || c = '\t' || c = '\n' || c = '\r'

def strip (text : Text) : Text := (text.dropWhile isSpace).rdropWhile isSpace

def Host.ends (host : Host) (c : Char) : Bool := c = '\n' || host.endsLine c

-- A character at which no host ends a line.
def isInner (c : Char) : Bool := c ≠ '\n' && c ≠ '\r' && c ≠ '\x00'

def lines (host : Host) (text : Text) : List Text := text.splitOnP host.ends

def isComment (line : Text) : Bool :=
  (line.dropWhile isSpace).head?.any fun c => c = '#' || c = ';'

-- The line ends in a backslash that is not itself escaped.
def endsOpen (line : Text) : Bool := line.foldl (fun escapes c => !escapes && c = '\\') false

-- A line that ends in a backslash goes on in the next one that is no comment.
def logical : Option Text → List Text → List Text
  | pending, [] => pending.toList
  | pending, line :: rest =>
      if isComment line then logical pending rest
      else
        let whole := pending.getD [] ++ line
        if endsOpen whole then logical (some (whole.dropLast ++ [' '])) rest
        else whole :: logical none rest

/-! Assignments. -/

structure Directive where
  heading : Text
  key : Text
  value : Text
  deriving DecidableEq

inductive Entry where
  | nothing
  | heading (name : Text)
  | assignment (key value : Text)
  deriving DecidableEq

def entry (line : Text) : Entry :=
  let stripped := strip line
  if stripped.head? = some '[' then .heading ((stripped.drop 1).takeWhile (· ≠ ']'))
  else match stripped.dropWhile (· ≠ '=') with
    | [] => .nothing
    | _ :: value => .assignment (strip (stripped.takeWhile (· ≠ '='))) (strip value)

def directives : Text → List Text → List Directive
  | _, [] => []
  | current, line :: rest => match entry line with
      | .nothing => directives current rest
      | .heading name => directives name rest
      | .assignment key value => ⟨current, key, value⟩ :: directives current rest

def Directive.isNamed (heading key : Text) (directive : Directive) : Bool :=
  directive.heading = heading && directive.key = key

-- An empty value takes back what was assigned before it.
def assigned (heading key : Text) (all : List Directive) : List Text :=
  (all.filter (Directive.isNamed heading key)).foldl
    (fun values directive => if directive.value = [] then [] else values ++ [directive.value]) []

/-! Items. -/

structure Item where
  text : Text
  quoted : Bool
  deriving DecidableEq

inductive Escape where
  | value (c : Char)
  | more
  | unknown

def simpleEscapes : List (Char × Char) :=
  [('a', '\x07'), ('b', '\x08'), ('f', '\x0c'), ('n', '\n'), ('r', '\r'), ('t', '\t'),
    ('v', '\x0b'), ('\\', '\\'), ('"', '"'), ('\'', '\''), ('s', ' ')]

def numeral (base count : Nat) (digits : Text) : Escape :=
  match digits.mapM fun c => (hexValue c).filter (· < base) with
  | none => .unknown
  | some values =>
      let code := values.foldl (fun code value => code * base + value) 0
      if values.length < count then .more
      else if code.isValidChar ∧ code ≠ 0 then .value (Char.ofNat code)
      else .unknown

-- What has been read after a backslash.
def escaped : Text → Escape
  | [] => .more
  | c :: rest =>
      match if rest = [] then simpleEscapes.lookup c else none with
      | some value => .value value
      | none =>
          if c = 'x' then numeral 16 2 rest
          else if c = 'u' then numeral 16 4 rest
          else if c = 'U' then numeral 16 8 rest
          else numeral 8 3 (c :: rest)

inductive Mode where
  | gap
  | bare (read : Text)
  | quoted (mark : Char) (read : Text)
  | closed (read : Text)
  | escape (mark : Option Char) (read sofar : Text)

structure Scan where
  items : List Item
  mode : Mode

def resume : Option Char → Text → Mode
  | some mark, read => .quoted mark read
  | none, read => .bare read

-- Quotes are put around a whole item.
def step (scan : Scan) (c : Char) : Option Scan :=
  match scan.mode with
  | .gap =>
      if isSpace c then some scan
      else if c = '"' || c = '\'' then some ⟨scan.items, .quoted c []⟩
      else if c = '\\' then some ⟨scan.items, .escape none [] []⟩
      else some ⟨scan.items, .bare [c]⟩
  | .bare read =>
      if isSpace c then some ⟨scan.items ++ [⟨read, false⟩], .gap⟩
      else if c = '\\' then some ⟨scan.items, .escape none read []⟩
      else some ⟨scan.items, .bare (read ++ [c])⟩
  | .quoted mark read =>
      if c = mark then some ⟨scan.items, .closed read⟩
      else if c = '\\' then some ⟨scan.items, .escape (some mark) read []⟩
      else some ⟨scan.items, .quoted mark (read ++ [c])⟩
  | .closed read =>
      if isSpace c then some ⟨scan.items ++ [⟨read, true⟩], .gap⟩ else none
  | .escape mark read sofar =>
      match escaped (sofar ++ [c]) with
      | .value d => some ⟨scan.items, resume mark (read ++ [d])⟩
      | .more => some ⟨scan.items, .escape mark read (sofar ++ [c])⟩
      | .unknown => none

def finish (scan : Scan) : Option (List Item) :=
  match scan.mode with
  | .gap => some scan.items
  | .bare read => some (scan.items ++ [⟨read, false⟩])
  | .closed read => some (scan.items ++ [⟨read, true⟩])
  | .quoted _ _ => none
  | .escape _ _ _ => none

def items (value : Text) : Option (List Item) := (value.foldlM step ⟨[], .gap⟩).bind finish

/-! Specifiers and variables. -/

-- The first argument says whether a percent sign stands before.
def expandFrom (specifier : Char → Option Text) : Bool → Text → Text
  | false, [] => []
  | true, [] => ['%']
  | false, c :: rest =>
      if c = '%' then expandFrom specifier true rest else c :: expandFrom specifier false rest
  | true, c :: rest =>
      if c = '%' then '%' :: expandFrom specifier false rest
      else (specifier c).getD ['%', c] ++ expandFrom specifier false rest

def expand (specifier : Char → Option Text) (text : Text) : Text := expandFrom specifier false text

def isName (name : Text) : Bool :=
  name.head?.any (fun c => c.isAlpha || c = '_') && name.all fun c => c.isAlphanum || c = '_'

inductive Dollar where
  | outside
  | sign
  | name (read : Text)

-- `${NAME}` and `$$` inside a word.
def bracesFrom (known : Text → Option Text) : Dollar → Text → Text
  | .outside, [] => []
  | .sign, [] => ['$']
  | .name read, [] => '$' :: '\x7b' :: read
  | .outside, c :: rest =>
      if c = '$' then bracesFrom known .sign rest else c :: bracesFrom known .outside rest
  | .sign, c :: rest =>
      if c = '$' then '$' :: bracesFrom known .outside rest
      else if c = '\x7b' then bracesFrom known (.name []) rest
      else '$' :: c :: bracesFrom known .outside rest
  | .name read, c :: rest =>
      if c = '\x7d' then (known read).getD [] ++ bracesFrom known .outside rest
      else bracesFrom known (.name (read ++ [c])) rest

-- `$NAME` as a word of its own gives any number of words.
def substitute (known : Text → Option Text) (word : Text) : List Text :=
  if word.head? = some '$' ∧ isName word.tail = true then
    (((known word.tail).getD []).splitOnP isSpace).filter (· ≠ [])
  else [bracesFrom known .outside word]

/-! Services. -/

structure Command where
  path : Text
  arguments : List Text
  deriving DecidableEq

structure Service where
  keys : List (Text × Text)
  environment : List (Text × Text)
  commands : List Command
  deriving DecidableEq

def splitAssignment (item : Text) : Option (Text × Text) :=
  match item.dropWhile (· ≠ '=') with
  | [] => none
  | _ :: value => some (item.takeWhile (· ≠ '='), value)

def environment (host : Host) (all : List Directive) : Option (List (Text × Text)) := do
  let lists ← (assigned "Service".toList "Environment".toList all).mapM items
  lists.flatten.mapM fun item => splitAssignment (expand host.specifier item.text)

-- What is assigned last counts.
def known (manager : Text → Option Text) (environment : List (Text × Text)) (name : Text) :
    Option Text :=
  (environment.reverse.lookup name).or (manager name)

def isMark (c : Char) : Bool := c ∈ ['@', '-', ':', '+', '!', '|']

-- The special characters before the path: `@` names the process, `:` keeps variables as they are.
def command (specifier : Char → Option Text) (known : Text → Option Text) :
    List Item → Option Command
  | [] => none
  | first :: rest =>
      let marks := first.text.takeWhile isMark
      let words := rest.map fun item => expand specifier item.text
      let arguments := if '@' ∈ marks then words.tail else words
      some ⟨expand specifier (first.text.dropWhile isMark),
        if ':' ∈ marks then arguments else arguments.flatMap (substitute known)⟩

def isSeparator (item : Item) : Bool := !item.quoted && item.text = [';']

def read (host : Host) (text : Text) : Option Service := do
  let all := directives [] (logical none (lines host text))
  let environment ← environment host all
  let lists ← (assigned "Service".toList "ExecStart".toList all).mapM items
  let commands ← (lists.flatMap fun list => list.splitOnP isSeparator).mapM
    (command host.specifier (known host.manager environment))
  pure ⟨all.map fun directive => (directive.heading, directive.key), environment, commands⟩

/-! What is written in quotes is read back. -/

def guard (c : Char) : Text :=
  if c = '\\' then ['\\', '\\'] else if c = '"' then ['\\', '"'] else [c]

def guarded (text : Text) : Text := text.flatMap guard

def quoted (text : Text) : Text := '"' :: guarded text ++ ['"']

theorem guarded_cons (c : Char) (rest : Text) : guarded (c :: rest) = guard c ++ guarded rest :=
  List.flatMap_cons

theorem scan_guarded (done : List Item) (read text : Text) :
    (guarded text).foldlM step ⟨done, .quoted '"' read⟩ =
      some ⟨done, .quoted '"' (read ++ text)⟩ := by
  induction text generalizing read with
  | nil => simp [guarded]
  | cons c rest ih =>
      rw [guarded_cons, List.foldlM_append]
      have here : (guard c).foldlM step ⟨done, .quoted '"' read⟩ =
          some ⟨done, .quoted '"' (read ++ [c])⟩ := by
        by_cases backslash : c = '\\'
        · subst backslash
          rfl
        · by_cases mark : c = '"'
          · subst mark
            rfl
          · simp [guard, backslash, mark, step]
      rw [here]
      simpa using ih (read ++ [c])

theorem scan_quoted (done : List Item) (text : Text) :
    (quoted text).foldlM step ⟨done, .gap⟩ = some ⟨done, .closed text⟩ := by
  have inner := scan_guarded done [] text
  have opened : step ⟨done, .gap⟩ '"' = some ⟨done, .quoted '"' []⟩ := rfl
  rw [quoted, List.cons_append, List.foldlM_cons, opened, Option.bind_eq_bind, Option.bind_some,
    List.foldlM_append, inner]
  simp [step]

def asQuoted (text : Text) : Item := ⟨text, true⟩

theorem words_cons (word next : Text) (rest : List Text) :
    [' '].intercalate ((word :: next :: rest).map quoted) =
      quoted word ++ ' ' :: [' '].intercalate ((next :: rest).map quoted) := by
  simp [List.intercalate_cons_cons]

theorem scan_list (done : List Item) (texts : List Text) :
    (([' '].intercalate (texts.map quoted)).foldlM step ⟨done, .gap⟩).bind finish =
      some (done ++ texts.map asQuoted) := by
  induction texts generalizing done with
  | nil => simp [finish]
  | cons text rest ih =>
      cases rest with
      | nil =>
          simp only [List.map_cons, List.map_nil, List.intercalate_singleton]
          rw [scan_quoted]
          rfl
      | cons next more =>
          have passed : step ⟨done, .closed text⟩ ' ' = some ⟨done ++ [asQuoted text], .gap⟩ := rfl
          rw [words_cons, List.foldlM_append, scan_quoted, Option.bind_eq_bind, Option.bind_some,
            List.foldlM_cons, passed, Option.bind_eq_bind, Option.bind_some, ih]
          simp

theorem items_quoted (texts : List Text) :
    items ([' '].intercalate (texts.map quoted)) = some (texts.map asQuoted) :=
  scan_list [] texts

/-! Escapes that come in pairs. -/

/-- Every backslash escapes the backslash or the quote after it. -/
inductive Paired : Text → Prop where
  | nil : Paired []
  | plain {c : Char} {rest : Text} (other : c ≠ '\\') (paired : Paired rest) : Paired (c :: rest)
  | pair {c : Char} {rest : Text} (escapes : c = '\\' ∨ c = '"') (paired : Paired rest) :
      Paired ('\\' :: c :: rest)

theorem paired_append {first last : Text} (left : Paired first) (right : Paired last) :
    Paired (first ++ last) := by
  induction left with
  | nil => exact right
  | plain other _ ih => exact .plain other ih
  | pair escapes _ ih => exact .pair escapes ih

theorem paired_plain {text : Text} (plain : '\\' ∉ text) : Paired text := by
  induction text with
  | nil => exact .nil
  | cons c rest ih =>
      have other : c ≠ '\\' := fun same => plain (same ▸ List.mem_cons_self)
      exact .plain other (ih fun member => plain (List.mem_cons_of_mem c member))

theorem paired_guarded (text : Text) : Paired (guarded text) := by
  induction text with
  | nil => exact .nil
  | cons c rest ih =>
      rw [guarded_cons]
      apply paired_append _ ih
      by_cases backslash : c = '\\'
      · subst backslash
        exact .pair (.inl rfl) .nil
      · by_cases mark : c = '"'
        · subst mark
          exact .pair (.inr rfl) .nil
        · simp only [guard, backslash, mark, if_false]
          exact .plain backslash .nil

theorem paired_quoted (text : Text) : Paired (quoted text) :=
  .plain (by decide) (paired_append (paired_guarded text) (.plain (by decide) .nil))

theorem paired_closed {line : Text} (paired : Paired line) : endsOpen line = false := by
  unfold endsOpen
  induction paired with
  | nil => rfl
  | plain other _ ih => simpa [other] using ih
  | pair _ _ ih => simpa using ih

-- A character that is part of no pair cuts a text into texts of pairs.
theorem paired_cut {first last : Text} {c : Char} (paired : Paired (first ++ c :: last))
    (apart : c ≠ '\\' ∧ c ≠ '"') : Paired first ∧ Paired last := by
  generalize whole : first ++ c :: last = text at paired
  induction paired generalizing first with
  | nil => simp at whole
  | @plain d rest other paired ih =>
      cases first with
      | nil =>
          obtain ⟨_, rfl⟩ := List.cons.inj whole
          exact ⟨.nil, paired⟩
      | cons e front =>
          obtain ⟨rfl, later⟩ := List.cons.inj whole
          obtain ⟨left, right⟩ := ih later
          exact ⟨.plain other left, right⟩
  | @pair d rest escapes paired ih =>
      cases first with
      | nil => exact absurd (List.cons.inj whole).1 apart.1
      | cons e front =>
          obtain ⟨rfl, later⟩ := List.cons.inj whole
          cases front with
          | nil =>
              obtain ⟨rfl, _⟩ := List.cons.inj later
              exact absurd escapes (not_or.mpr apart)
          | cons f more =>
              obtain ⟨rfl, after⟩ := List.cons.inj later
              obtain ⟨left, right⟩ := ih after
              exact ⟨.pair escapes left, right⟩

/-! What is read is made of what is written. -/

section Within

variable {P : Char → Prop}

def Within (P : Char → Prop) (text : Text) : Prop := ∀ c ∈ text, P c

theorem within_append {first last : Text} (left : Within P first) (right : Within P last) :
    Within P (first ++ last) :=
  fun c member => (List.mem_append.mp member).elim (left c) (right c)

theorem within_cons {c : Char} {rest : Text} (first : P c) (later : Within P rest) :
    Within P (c :: rest) :=
  fun d member => (List.mem_cons.mp member).elim (fun same => same ▸ first) (later d)

theorem within_nil : Within P [] := fun _ member => absurd member List.not_mem_nil

def Mode.Within (P : Char → Prop) : Mode → Prop
  | .gap => True
  | .bare read => SystemdUnits.Within P read
  | .quoted _ read => SystemdUnits.Within P read
  | .closed read => SystemdUnits.Within P read
  | .escape _ _ _ => False

structure Scan.Within (P : Char → Prop) (scan : Scan) : Prop where
  items : ∀ item ∈ scan.items, SystemdUnits.Within P item.text
  mode : scan.mode.Within P

theorem items_concat {done : List Item} {read : Text} {quoted : Bool}
    (before : ∀ item ∈ done, Within P item.text) (last : Within P read) :
    ∀ item ∈ done ++ [⟨read, quoted⟩], Within P item.text := by
  intro other member
  rcases List.mem_append.mp member with earlier | only
  · exact before other earlier
  · rw [List.mem_singleton.mp only]
    exact last

theorem step_within {scan next : Scan} {c : Char} (within : scan.Within P) (here : P c)
    (other : c ≠ '\\') (stepped : step scan c = some next) : next.Within P := by
  obtain ⟨done, mode⟩ := scan
  obtain ⟨before, inside⟩ := within
  have single : Within P [c] := within_cons here within_nil
  cases mode with
  | gap =>
      simp only [step, other, if_false] at stepped
      split at stepped
      · cases stepped
        exact ⟨before, trivial⟩
      · split at stepped
        · cases stepped
          exact ⟨before, within_nil⟩
        · cases stepped
          exact ⟨before, single⟩
  | bare read =>
      simp only [step, other, if_false] at stepped
      split at stepped
      · cases stepped
        exact ⟨items_concat before inside, trivial⟩
      · cases stepped
        exact ⟨before, within_append inside single⟩
  | quoted mark read =>
      simp only [step, other, if_false] at stepped
      split at stepped
      · cases stepped
        exact ⟨before, inside⟩
      · cases stepped
        exact ⟨before, within_append inside single⟩
  | closed read =>
      simp only [step] at stepped
      split at stepped
      · cases stepped
        exact ⟨items_concat before inside, trivial⟩
      · cases stepped
  | escape mark read sofar => exact inside.elim

theorem pair_within {scan middle next : Scan} {c : Char} (within : scan.Within P) (here : P c)
    (escapes : c = '\\' ∨ c = '"') (first : step scan '\\' = some middle)
    (second : step middle c = some next) : next.Within P := by
  obtain ⟨done, mode⟩ := scan
  obtain ⟨before, inside⟩ := within
  have value : escaped [c] = .value c := by
    rcases escapes with rfl | rfl
    · rfl
    · rfl
  have ended {mark : Option Char} {read : Text} (held : Within P read)
      (ends : step ⟨done, .escape mark read []⟩ c = some next) : next.Within P := by
    have longer : Within P (read ++ [c]) := within_append held (within_cons here within_nil)
    simp only [step, List.nil_append, value] at ends
    cases ends
    cases mark with
    | none => exact ⟨before, longer⟩
    | some mark => exact ⟨before, longer⟩
  cases mode with
  | gap =>
      cases first
      exact ended within_nil second
  | bare read =>
      cases first
      exact ended inside second
  | quoted mark read =>
      simp only [step, if_true] at first
      split at first
      · cases first
        simp only [step] at second
        split at second
        · cases second
          exact ⟨items_concat before inside, trivial⟩
        · cases second
      · cases first
        exact ended inside second
  | closed read => cases first
  | escape mark read sofar => exact inside.elim

theorem scan_within {line : Text} (paired : Paired line) (inside : Within P line) {scan next : Scan}
    (within : scan.Within P) (scanned : line.foldlM step scan = some next) : next.Within P := by
  induction paired generalizing scan with
  | nil =>
      cases scanned
      exact within
  | plain other _ ih =>
      rw [List.foldlM_cons, Option.bind_eq_bind, Option.bind_eq_some_iff] at scanned
      obtain ⟨middle, stepped, later⟩ := scanned
      exact ih (fun c member => inside c (List.mem_cons_of_mem _ member))
        (step_within within (inside _ List.mem_cons_self) other stepped) later
  | pair escapes _ ih =>
      rw [List.foldlM_cons, Option.bind_eq_bind, Option.bind_eq_some_iff] at scanned
      obtain ⟨middle, first, rest⟩ := scanned
      rw [List.foldlM_cons, Option.bind_eq_bind, Option.bind_eq_some_iff] at rest
      obtain ⟨after, second, later⟩ := rest
      exact ih
        (fun c member => inside c (List.mem_cons_of_mem _ (List.mem_cons_of_mem _ member)))
        (pair_within within (inside _ (List.mem_cons_of_mem _ List.mem_cons_self)) escapes first
          second) later

theorem items_within {line : Text} {read : List Item} (paired : Paired line)
    (inside : Within P line) (listed : items line = some read) :
    ∀ item ∈ read, Within P item.text := by
  obtain ⟨scan, scanned, finished⟩ := Option.bind_eq_some_iff.mp listed
  have start : Scan.Within P ⟨[], .gap⟩ :=
    ⟨fun _ member => absurd member List.not_mem_nil, trivial⟩
  obtain ⟨before, mode⟩ := scan_within paired inside start scanned
  obtain ⟨done, ending⟩ := scan
  cases ending with
  | gap =>
      cases finished
      exact before
  | bare last =>
      cases finished
      exact items_concat before mode
  | closed last =>
      cases finished
      exact items_concat before mode
  | quoted mark last => cases finished
  | escape mark last sofar => cases finished

/-- A text of pairs whose characters are all of one kind. -/
structure Tame (P : Char → Prop) (text : Text) : Prop where
  paired : Paired text
  within : Within P text

theorem within_sublist {first last : Text} (within : Within P last) (part : first.Sublist last) :
    Within P first := fun c member => within c (part.subset member)

theorem paired_dropWhile {text : Text} (paired : Paired text) :
    Paired (text.dropWhile isSpace) := by
  induction paired with
  | nil => exact .nil
  | @plain c rest other paired ih =>
      by_cases space : isSpace c = true
      · rwa [List.dropWhile_cons_of_pos space]
      · rw [List.dropWhile_cons_of_neg space]
        exact .plain other paired
  | pair escapes paired => exact .pair escapes paired

theorem paired_rdropWhile {text : Text} (paired : Paired text) :
    Paired (text.rdropWhile isSpace) := by
  have whole : text.rdropWhile isSpace ++ text.rtakeWhile isSpace = text :=
    List.rdropWhile_append_rtakeWhile
  cases spaces : text.rtakeWhile isSpace with
  | nil =>
      rw [spaces, List.append_nil] at whole
      rw [whole]
      exact paired
  | cons c more =>
      have space : isSpace c = true := by
        apply List.mem_rtakeWhile_imp
        rw [spaces]
        exact List.mem_cons_self
      have apart : c ≠ '\\' ∧ c ≠ '"' := by
        constructor <;> rintro rfl <;> exact absurd space (by decide)
      rw [spaces] at whole
      exact (paired_cut (whole ▸ paired) apart).1

theorem tame_strip {text : Text} (tame : Tame P text) : Tame P (strip text) where
  paired := paired_rdropWhile (paired_dropWhile tame.paired)
  within := within_sublist tame.within
    ((List.rdropWhile_prefix isSpace _).sublist.trans (List.dropWhile_sublist isSpace))

-- What stands behind the first equals sign.
theorem tame_behind {text value : Text} {c : Char} (tame : Tame P text)
    (split_ : text.dropWhile (· ≠ '=') = c :: value) : Tame P value := by
  have whole := List.takeWhile_append_dropWhile (p := (· ≠ '=')) (l := text)
  have sign : c = '=' := by
    have stop := List.head?_dropWhile_not (fun d : Char => decide (d ≠ '=')) text
    rw [split_] at stop
    simpa using stop
  rw [split_] at whole
  have cut : Paired (text.takeWhile (· ≠ '=') ++ c :: value) := by
    rw [whole]
    exact tame.paired
  refine ⟨(paired_cut cut ?_).2, ?_⟩
  · rw [sign]
    decide
  · have part : value.Sublist (text.dropWhile (· ≠ '=')) := split_ ▸ List.sublist_cons_self c value
    exact within_sublist tame.within (part.trans (List.dropWhile_sublist _))

theorem ends_inner (host : Host) {c : Char} (inner : isInner c = true) : host.ends c = false := by
  simp only [isInner, Bool.and_eq_true, decide_eq_true_eq] at inner
  have open_ : host.endsLine c = false := by
    by_contra ends
    rcases host.endings c (by simpa using ends) with same | same
    · exact inner.1.2 same
    · exact inner.2 same
  simp [Host.ends, inner.1.1, open_]

theorem ends_apart (host : Host) {c : Char} (escapes : c = '\\' ∨ c = '"') :
    host.ends c = false := by
  apply ends_inner
  rcases escapes with rfl | rfl
  · decide
  · decide

theorem within_quoted (marks : ∀ c, c = '\\' ∨ c = '"' → P c) {text : Text}
    (within : Within P text) : Within P (quoted text) := by
  have inner : Within P (guarded text) := by
    intro c member
    obtain ⟨d, inside, part⟩ := List.mem_flatMap.mp member
    have kept := within d inside
    by_cases backslash : d = '\\'
    · simp only [SystemdUnits.guard, backslash, if_true] at part
      exact marks c (.inl (by simpa using part))
    · by_cases mark : d = '"'
      · simp only [SystemdUnits.guard, mark, if_true] at part
        exact marks c (by simpa using part)
      · simp only [SystemdUnits.guard, backslash, mark, if_false, List.mem_singleton] at part
        rw [part]
        exact kept
  exact within_cons (marks _ (.inr rfl))
    (within_append inner (within_cons (marks _ (.inr rfl)) within_nil))

theorem all_modifyHead {Item : Type} {Holds : List Item → Prop} {parts : List (List Item)}
    (all : ∀ part ∈ parts, Holds part) {longer : List Item → List Item}
    (kept : ∀ part, Holds part → Holds (longer part)) :
    ∀ part ∈ parts.modifyHead longer, Holds part := by
  cases parts with
  | nil => exact all
  | cons first others =>
      intro part member
      rcases List.mem_cons.mp member with rfl | later
      · exact kept first (all first List.mem_cons_self)
      · exact all part (List.mem_cons_of_mem _ later)

theorem mem_splitOnP {Item : Type} {cuts : Item → Bool} {all : List Item} :
    ∀ part ∈ all.splitOnP cuts, ∀ item ∈ part, item ∈ all := by
  induction all with
  | nil =>
      intro part member
      rw [List.mem_singleton.mp member]
      exact fun _ inside => inside
  | cons first rest ih =>
      have later : ∀ part ∈ rest.splitOnP cuts, ∀ item ∈ part, item ∈ first :: rest :=
        fun part member item inside => List.mem_cons_of_mem _ (ih part member item inside)
      rw [List.splitOnP_cons_eq_if_modifyHead]
      by_cases here : cuts first = true
      · rw [if_pos here]
        intro part member
        rcases List.mem_cons.mp member with rfl | after
        · exact fun _ inside => absurd inside List.not_mem_nil
        · exact later part after
      · rw [if_neg here]
        apply all_modifyHead later
        intro part kept item inside
        rcases List.mem_cons.mp inside with rfl | after
        · exact List.mem_cons_self
        · exact kept item after

theorem within_splitOnP (cuts : Char → Bool) {text : Text} (within : Within P text) :
    ∀ part ∈ text.splitOnP cuts, Within P part :=
  fun part member c inside => within c (mem_splitOnP part member c inside)

theorem tame_lines (host : Host) {text : Text} (paired : Paired text) :
    ∀ line ∈ lines host text, Tame (fun c => host.ends c = false) line := by
  unfold lines
  induction paired with
  | nil =>
      intro line member
      rw [List.mem_singleton.mp member]
      exact ⟨.nil, within_nil⟩
  | @plain c rest other _ ih =>
      rw [List.splitOnP_cons_eq_if_modifyHead]
      by_cases stops : host.ends c = true
      · rw [if_pos stops]
        intro line member
        rcases List.mem_cons.mp member with rfl | later
        · exact ⟨.nil, within_nil⟩
        · exact ih line later
      · rw [if_neg stops]
        exact all_modifyHead ih fun line tame =>
          ⟨.plain other tame.paired, within_cons (by simpa using stops) tame.within⟩
  | @pair c rest escapes _ ih =>
      have first := ends_apart host (c := '\\') (.inl rfl)
      have second := ends_apart host escapes
      rw [List.splitOnP_cons_eq_if_modifyHead, List.splitOnP_cons_eq_if_modifyHead,
        if_neg (by simp [first]), if_neg (by simp [second]), List.modifyHead_modifyHead]
      exact all_modifyHead ih fun line tame =>
        ⟨.pair escapes tame.paired, within_cons first (within_cons second tame.within)⟩

theorem logical_paired {all : List Text} (paired : ∀ line ∈ all, Paired line) :
    logical none all = all.filter fun line => !isComment line := by
  induction all with
  | nil => rfl
  | cons line rest ih =>
      have later := ih fun other member => paired other (List.mem_cons_of_mem _ member)
      have closed := paired_closed (paired line List.mem_cons_self)
      by_cases comment : isComment line = true
      · simp [logical, comment, later]
      · simp [logical, comment, closed, later]

theorem tame_directives {all : List Text} (tame : ∀ line ∈ all, Tame P line) (current : Text) :
    ∀ directive ∈ directives current all, Tame P directive.value := by
  induction all generalizing current with
  | nil => exact fun _ member => absurd member List.not_mem_nil
  | cons line rest ih =>
      have later := ih fun other member => tame other (List.mem_cons_of_mem _ member)
      have here := tame line List.mem_cons_self
      intro directive member
      rw [directives] at member
      cases read : entry line with
      | nothing =>
          rw [read] at member
          exact later current directive member
      | heading name =>
          rw [read] at member
          exact later name directive member
      | assignment key value =>
          rw [read] at member
          rcases List.mem_cons.mp member with rfl | after
          · simp only [entry] at read
            split at read
            · cases read
            · split at read
              · cases read
              · rename_i sign behind split_
                cases read
                exact tame_strip (tame_behind (tame_strip here) split_)
          · exact later current directive after

theorem assigned_from {heading key value : Text} {all : List Directive}
    (member : value ∈ assigned heading key all) : ∃ directive ∈ all, directive.value = value := by
  have kept (rest : List Directive) (values : List Text)
      (inside : value ∈ rest.foldl (fun values directive =>
        if directive.value = [] then [] else values ++ [directive.value]) values) :
      value ∈ values ∨ ∃ directive ∈ rest, directive.value = value := by
    induction rest generalizing values with
    | nil => exact .inl inside
    | cons directive rest ih =>
        rcases ih _ inside with here | ⟨other, later, same⟩
        · by_cases empty : directive.value = []
          · simp [empty] at here
          · simp only [empty, if_false] at here
            rcases List.mem_append.mp here with before | only
            · exact .inl before
            · exact .inr ⟨directive, List.mem_cons_self, (List.mem_singleton.mp only).symm⟩
        · exact .inr ⟨other, List.mem_cons_of_mem _ later, same⟩
  rcases kept _ [] member with none | ⟨directive, listed, same⟩
  · cases none
  · exact ⟨directive, (List.mem_filter.mp listed).1, same⟩

/-! Expansion with nothing but what stands there. -/

theorem expandFrom_within {text : Text} (within : Within P text) (sign : Bool)
    (percent : sign = true → P '%') : Within P (expandFrom (fun _ => none) sign text) := by
  induction text generalizing sign with
  | nil =>
      cases sign with
      | false => exact within_nil
      | true => exact within_cons (percent rfl) within_nil
  | cons c rest ih =>
      have here := within c List.mem_cons_self
      have later (sign : Bool) (percent : sign = true → P '%') :=
        ih (fun d member => within d (List.mem_cons_of_mem _ member)) sign percent
      have after := later false fun wrong => absurd wrong (by decide)
      cases sign with
      | false =>
          rw [expandFrom]
          by_cases same : c = '%'
          · rw [if_pos same]
            exact later true fun _ => same ▸ here
          · rw [if_neg same]
            exact within_cons here after
      | true =>
          rw [expandFrom]
          by_cases same : c = '%'
          · rw [if_pos same]
            exact within_cons (percent rfl) after
          · rw [if_neg same]
            exact within_append (within_cons (percent rfl) (within_cons here within_nil)) after

theorem expand_within {text : Text} (within : Within P text) :
    Within P (expand (fun _ => none) text) :=
  expandFrom_within within false fun wrong => absurd wrong (by decide)

def Dollar.Within (P : Char → Prop) : Dollar → Prop
  | .outside => True
  | .sign => P '$'
  | .name read => P '$' ∧ P '\x7b' ∧ SystemdUnits.Within P read

theorem bracesFrom_within {known : Text → Option Text}
    (values : ∀ name value, known name = some value → Within P value) {text : Text}
    (within : Within P text) (state : Dollar) (held : state.Within P) :
    Within P (bracesFrom known state text) := by
  have looked (name : Text) : Within P ((known name).getD []) := by
    cases found : known name with
    | none => exact within_nil
    | some value => exact values name value found
  induction text generalizing state with
  | nil =>
      cases state with
      | outside => exact within_nil
      | sign => exact within_cons held within_nil
      | name read => exact within_cons held.1 (within_cons held.2.1 held.2.2)
  | cons c rest ih =>
      have here := within c List.mem_cons_self
      have later := ih fun d member => within d (List.mem_cons_of_mem _ member)
      cases state with
      | outside =>
          rw [bracesFrom]
          by_cases dollar : c = '$'
          · rw [if_pos dollar]
            have held : P '$' := dollar ▸ here
            exact later .sign held
          · rw [if_neg dollar]
            exact within_cons here (later .outside trivial)
      | sign =>
          rw [bracesFrom]
          by_cases dollar : c = '$'
          · rw [if_pos dollar]
            exact within_cons held (later .outside trivial)
          · rw [if_neg dollar]
            by_cases brace : c = '\x7b'
            · rw [if_pos brace]
              exact later (.name []) ⟨held, brace ▸ here, within_nil⟩
            · rw [if_neg brace]
              exact within_cons held (within_cons here (later .outside trivial))
      | name read =>
          rw [bracesFrom]
          by_cases closes : c = '\x7d'
          · rw [if_pos closes]
            exact within_append (looked read) (later .outside trivial)
          · rw [if_neg closes]
            exact later (.name (read ++ [c]))
              ⟨held.1, held.2.1, within_append held.2.2 (within_cons here within_nil)⟩

theorem substitute_within {known : Text → Option Text}
    (values : ∀ name value, known name = some value → Within P value) {word : Text}
    (within : Within P word) : ∀ part ∈ substitute known word, Within P part := by
  intro part member
  unfold substitute at member
  split at member
  · have cut := (List.mem_filter.mp member).1
    cases found : known word.tail with
    | none =>
        rw [found] at cut
        exact within_splitOnP isSpace within_nil part cut
    | some value =>
        rw [found] at cut
        exact within_splitOnP isSpace (values _ value found) part cut
  · rw [List.mem_singleton.mp member]
    exact bracesFrom_within values within .outside trivial

/-! Services. -/

theorem mapM_made {Item Result : Type} {step : Item → Option Result} {made : Item → Result}
    {all : List Item} (each : ∀ item ∈ all, step item = some (made item)) :
    all.mapM step = some (all.map made) := by
  induction all with
  | nil => rfl
  | cons item rest ih =>
      have here := each item List.mem_cons_self
      have later := ih fun other member => each other (List.mem_cons_of_mem _ member)
      rw [List.mapM_cons, here, later]
      rfl

theorem mapM_from {Item Result : Type} {step : Item → Option Result} {all : List Item}
    {results : List Result} (mapped : all.mapM step = some results) :
    ∀ result ∈ results, ∃ item ∈ all, step item = some result := by
  induction all generalizing results with
  | nil =>
      cases mapped
      exact fun _ member => absurd member List.not_mem_nil
  | cons item rest ih =>
      simp only [List.mapM_cons, Option.bind_eq_bind, Option.bind_eq_some_iff,
        Option.pure_def] at mapped
      obtain ⟨first, here, others, later, whole⟩ := mapped
      cases whole
      intro result member
      rcases List.mem_cons.mp member with rfl | after
      · exact ⟨item, List.mem_cons_self, here⟩
      · obtain ⟨other, inside, same⟩ := ih later result after
        exact ⟨other, List.mem_cons_of_mem _ inside, same⟩

-- Nothing but what stands in the file: no specifiers, and no variables of the manager.
def bare (endsLine : Char → Bool) (endings : ∀ c, endsLine c = true → c = '\r' ∨ c = '\x00') :
    Host where
  endsLine := endsLine
  specifier _ := none
  manager _ := none
  endings := endings
  letters _ wrong := absurd wrong (by simp)

variable {all : List Directive} (tame : ∀ directive ∈ all, Tame P directive.value)
include tame

theorem items_assigned {heading key : Text} {lists : List (List Item)}
    (read : (assigned heading key all).mapM items = some lists) :
    ∀ list ∈ lists, ∀ item ∈ list, Within P item.text := by
  intro list member
  obtain ⟨value, inside, listed⟩ := mapM_from read list member
  obtain ⟨directive, known, same⟩ := assigned_from inside
  have kept := same ▸ tame directive known
  exact items_within kept.paired kept.within listed

theorem environment_within {host : Host} (plain : host.specifier = fun _ => none)
    {rows : List (Text × Text)} (read : environment host all = some rows) :
    ∀ row ∈ rows, Within P row.2 := by
  obtain ⟨lists, listed, mapped⟩ := Option.bind_eq_some_iff.mp read
  intro row member
  obtain ⟨item, inside, split_⟩ := mapM_from mapped row member
  obtain ⟨list, present, belongs⟩ := List.mem_flatten.mp inside
  have whole := expand_within (items_assigned tame listed list present item belongs)
  rw [plain, splitAssignment] at split_
  split at split_
  · cases split_
  · rename_i sign value behind
    cases split_
    have part : value.Sublist ((expand (fun _ => none) item.text).dropWhile (· ≠ '=')) :=
      behind ▸ List.sublist_cons_self sign value
    exact within_sublist whole (part.trans (List.dropWhile_sublist _))

omit tame in
theorem known_within {rows : List (Text × Text)} (within : ∀ row ∈ rows, Within P row.2)
    (name value : Text) (found : known (fun _ => none) rows name = some value) :
    Within P value := by
  simp only [known, Option.or_none] at found
  obtain ⟨before, after, whole, _⟩ := List.lookup_eq_some_iff.mp found
  have member : (name, value) ∈ rows.reverse := by simp [whole]
  exact within (name, value) (List.mem_reverse.mp member)

structure Command.Within (P : Char → Prop) (command : Command) : Prop where
  path : SystemdUnits.Within P command.path
  arguments : ∀ argument ∈ command.arguments, SystemdUnits.Within P argument

omit tame in
theorem command_within {known : Text → Option Text}
    (values : ∀ name value, known name = some value → Within P value) {list : List Item}
    (within : ∀ item ∈ list, Within P item.text) {made : Command}
    (read : command (fun _ => none) known list = some made) : made.Within P := by
  cases list with
  | nil => cases read
  | cons first rest =>
      have words : ∀ word ∈ rest.map fun item => expand (fun _ => none) item.text,
          Within P word := by
        intro word member
        obtain ⟨item, inside, rfl⟩ := List.mem_map.mp member
        exact expand_within (within item (List.mem_cons_of_mem _ inside))
      cases read
      constructor
      · have whole := within first List.mem_cons_self
        exact expand_within (within_sublist whole (List.dropWhile_sublist isMark))
      · have kept : ∀ word ∈ (if '@' ∈ first.text.takeWhile isMark then
              (rest.map fun item => expand (fun _ => none) item.text).tail
            else rest.map fun item => expand (fun _ => none) item.text), Within P word := by
          intro word member
          split at member
          · exact words word (List.mem_of_mem_tail member)
          · exact words word member
        intro argument member
        split at member
        · exact kept argument member
        · obtain ⟨word, inside, part⟩ := List.mem_flatMap.mp member
          exact substitute_within values (kept word inside) argument part

theorem commands_within {endsLine : Char → Bool} {endings} {rows : List (Text × Text)}
    (environs : environment (bare endsLine endings) all = some rows) {lists : List (List Item)}
    (listed : (assigned "Service".toList "ExecStart".toList all).mapM items = some lists)
    {commands : List Command}
    (mapped : (lists.flatMap fun list => list.splitOnP isSeparator).mapM
      (command (fun _ => none) (known (fun _ => none) rows)) = some commands) :
    ∀ made ∈ commands, made.Within P := by
  have values := known_within (environment_within tame rfl environs)
  intro made member
  obtain ⟨part, inside, read⟩ := mapM_from mapped made member
  obtain ⟨list, whole, cut⟩ := List.mem_flatMap.mp inside
  apply command_within values _ read
  exact fun item belongs => items_assigned tame listed list whole item
    (mem_splitOnP part cut item belongs)

end Within

/-- In a text of pairs no word of a command holds a character that ends a line, but for what the
host puts in. -/
theorem read_whole {endsLine : Char → Bool} {endings} {text : Text} {service : Service}
    (paired : Paired text) (parsed : read (bare endsLine endings) text = some service) :
    ∀ made ∈ service.commands, made.Within fun c => (bare endsLine endings).ends c = false := by
  have kept := tame_lines (bare endsLine endings) paired
  have whole : ∀ line ∈ logical none (lines (bare endsLine endings) text),
      Tame (fun c => (bare endsLine endings).ends c = false) line := by
    rw [logical_paired fun line inside => (kept line inside).paired]
    exact fun line member => kept line (List.mem_filter.mp member).1
  obtain ⟨rows, environs, rest⟩ := Option.bind_eq_some_iff.mp parsed
  obtain ⟨lists, listed, rest⟩ := Option.bind_eq_some_iff.mp rest
  obtain ⟨commands, mapped, made⟩ := Option.bind_eq_some_iff.mp rest
  cases made
  exact commands_within (tame_directives whole []) environs listed mapped

/-! What is read as it stands. -/

def stray (text : Text) : Bool := text.head?.all fun c => c ≠ '%' && !c.isAlpha

-- No percent sign stands before a letter or another percent sign.
def inert : Text → Bool
  | [] => true
  | c :: rest => (c ≠ '%' || stray rest) && inert rest

theorem expandFrom_inert {specifier : Char → Option Text}
    (letters : ∀ c, (specifier c).isSome = true → c.isAlpha = true) {text : Text}
    (calm : inert text = true) :
    expandFrom specifier false text = text ∧
      (stray text = true → expandFrom specifier true text = '%' :: text) := by
  induction text with
  | nil => exact ⟨rfl, fun _ => rfl⟩
  | cons c rest ih =>
      obtain ⟨here, later⟩ := Bool.and_eq_true_iff.mp calm
      obtain ⟨plain, after⟩ := ih later
      constructor
      · rw [expandFrom]
        by_cases percent : c = '%'
        · have alone : stray rest = true := by simpa [percent] using here
          rw [if_pos percent, after alone, percent]
        · rw [if_neg percent, plain]
      · intro alone
        have other : c ≠ '%' ∧ c.isAlpha = false := by simpa [stray] using alone
        have unknown : specifier c = none := by
          by_contra known
          have letter := letters c (Option.isSome_iff_ne_none.mpr known)
          rw [other.2] at letter
          cases letter
        rw [expandFrom, if_neg other.1, unknown, plain]
        rfl

theorem expand_inert {specifier : Char → Option Text}
    (letters : ∀ c, (specifier c).isSome = true → c.isAlpha = true) {text : Text}
    (calm : inert text = true) : expand specifier text = text :=
  (expandFrom_inert letters calm).1

-- A host on which every letter is a specifier that stands for nothing.
def emptying (c : Char) : Option Text := if c.isAlpha then some [] else none

theorem expandFrom_shrinks (text : Text) :
    ((expandFrom emptying false text).length ≤ text.length ∧
      (inert text = false → (expandFrom emptying false text).length < text.length)) ∧
    ((expandFrom emptying true text).length ≤ text.length + 1 ∧
      (stray text = false ∨ inert text = false →
        (expandFrom emptying true text).length < text.length + 1)) := by
  induction text with
  | nil => simp [expandFrom, inert, stray]
  | cons c rest ih =>
      obtain ⟨⟨most, fewer⟩, longest, shorter⟩ := ih
      by_cases percent : c = '%'
      · subst percent
        have split_ : inert ('%' :: rest) = (stray rest && inert rest) := by simp [inert]
        simp only [expandFrom, if_true, List.length_cons, split_, Bool.and_eq_false_iff]
        exact ⟨⟨longest, shorter⟩, by omega, fun _ => by omega⟩
      · have split_ : inert (c :: rest) = inert rest := by simp [inert, percent]
        by_cases letter : c.isAlpha = true
        · have gone : emptying c = some [] := if_pos letter
          simp only [expandFrom, percent, if_false, List.length_cons, split_, gone,
            Option.getD_some, List.nil_append]
          exact ⟨⟨by omega, fun calm => by have := fewer calm; omega⟩, by omega, fun _ => by omega⟩
        · have unknown : emptying c = none := if_neg letter
          have alone : stray (c :: rest) = true := by simp [stray, percent, letter]
          simp only [expandFrom, percent, if_false, List.length_cons, split_, unknown, alone,
            Option.getD_none, List.cons_append, List.nil_append]
          refine ⟨⟨by omega, fun calm => by have := fewer calm; omega⟩, by omega, fun either => ?_⟩
          have less := fewer (either.resolve_left (by decide))
          omega

theorem expand_emptied {text : Text} (kept : expand emptying text = text) : inert text = true := by
  by_contra wild
  have shorter := (expandFrom_shrinks text).1.2 (by simpa using wild)
  rw [← expand, kept] at shorter
  exact absurd shorter (lt_irrefl _)

theorem expand_append {specifier : Char → Option Text} {first : Text} (plain : '%' ∉ first)
    (last : Text) : expand specifier (first ++ last) = first ++ expand specifier last := by
  induction first with
  | nil => rfl
  | cons c rest ih =>
      have other : c ≠ '%' := fun same => plain (same ▸ List.mem_cons_self)
      have later := ih fun member => plain (List.mem_cons_of_mem c member)
      rw [expand, List.cons_append, expandFrom, if_neg other]
      exact congrArg (c :: ·) later

theorem cut_sign {name : Text} (plain : '=' ∉ name) (value : Text) :
    (name ++ '=' :: value).takeWhile (· ≠ '=') = name ∧
      (name ++ '=' :: value).dropWhile (· ≠ '=') = '=' :: value := by
  have passes : ∀ c ∈ name, decide (c ≠ '=') = true := by
    intro c member
    have other : c ≠ '=' := fun same => plain (same ▸ member)
    simp [other]
  constructor
  · rw [List.takeWhile_append_of_pos passes]
    simp
  · rw [List.dropWhile_append_of_pos passes]
    simp

theorem splitAssignment_sign {name value : Text} (plain : '=' ∉ name) :
    splitAssignment (name ++ '=' :: value) = some (name, value) := by
  obtain ⟨front, back⟩ := cut_sign plain value
  rw [splitAssignment, back, front]

theorem bracesFrom_plain {known : Text → Option Text} {word : Text} (plain : '$' ∉ word) :
    bracesFrom known .outside word = word := by
  induction word with
  | nil => rfl
  | cons c rest ih =>
      have other : c ≠ '$' := fun same => plain (same ▸ List.mem_cons_self)
      rw [bracesFrom, if_neg other, ih fun member => plain (List.mem_cons_of_mem c member)]

theorem substitute_plain {known : Text → Option Text} {word : Text} (plain : '$' ∉ word) :
    substitute known word = [word] := by
  have start : ¬ (word.head? = some '$' ∧ isName word.tail = true) :=
    fun both => plain (List.mem_of_mem_head? both.1)
  rw [substitute, if_neg start, bracesFrom_plain plain]

/-- The text of an argument stands for itself, whatever its percent and dollar signs could mean to
the manager of this host. -/
def Kept (rows : List (Text × Text)) (text : Text) : Prop :=
  ∀ host : Host, substitute (known host.manager rows) (expand host.specifier text) = [text]

theorem kept_plain {rows : List (Text × Text)} {text : Text} (calm : inert text = true)
    (plain : '$' ∉ text) : Kept rows text := by
  intro host
  rw [expand_inert host.letters calm, substitute_plain plain]

/-! What is written line by line. -/

def written (all : List Text) : Text := all.flatMap fun line => line ++ ['\n']

theorem lines_written {host : Host} {all : List Text}
    (whole : ∀ line ∈ all, ∀ c ∈ line, host.ends c = false) :
    lines host (written all) = all ++ [[]] := by
  have feed : host.ends '\n' = true := rfl
  unfold lines written
  induction all with
  | nil => rfl
  | cons line rest ih =>
      have later := ih fun other member => whole other (List.mem_cons_of_mem _ member)
      rw [List.flatMap_cons, List.append_assoc, List.singleton_append,
        List.splitOnP_append_cons_of_forall_mem (whole line List.mem_cons_self) _ feed, later]
      rfl

theorem paired_written {all : List Text} (paired : ∀ line ∈ all, Paired line) :
    Paired (written all) := by
  induction all with
  | nil => exact .nil
  | cons line rest ih =>
      have later := ih fun other member => paired other (List.mem_cons_of_mem _ member)
      exact paired_append (paired_append (paired line List.mem_cons_self)
        (.plain (by decide) .nil)) later

-- A text that white space neither begins nor ends.
structure Solid (text : Text) : Prop where
  first : ∀ c ∈ text.head?, isSpace c = false
  last : ∀ c ∈ text.getLast?, isSpace c = false

theorem strip_solid {text : Text} (solid : Solid text) : strip text = text := by
  have front : text.dropWhile isSpace = text := by
    cases text with
    | nil => rfl
    | cons c rest =>
        have here : isSpace c = false := solid.first c rfl
        rw [List.dropWhile_cons_of_neg (by simp [here])]
  rw [strip, front, List.rdropWhile_eq_self_iff]
  intro filled space
  have here := solid.last _ (List.getLast?_eq_some_getLast filled)
  rw [here] at space
  cases space

theorem solid_quoted (text : Text) : Solid (quoted text) := by
  constructor
  · intro c member
    cases member
    rfl
  · intro c member
    rw [quoted, List.getLast?_append] at member
    cases member
    rfl

theorem paired_words (words : List Text) : Paired ([' '].intercalate (words.map quoted)) := by
  induction words with
  | nil => exact .nil
  | cons word rest ih =>
      cases rest with
      | nil => simpa using paired_quoted word
      | cons next more =>
          rw [words_cons]
          exact paired_append (paired_quoted word) (.plain (by decide) ih)

theorem within_words {P : Char → Prop} (marks : ∀ c, c = '\\' ∨ c = '"' → P c) (space : P ' ')
    {words : List Text} (within : ∀ word ∈ words, Within P word) :
    Within P ([' '].intercalate (words.map quoted)) := by
  induction words with
  | nil => exact within_nil
  | cons word rest ih =>
      have here := within_quoted marks (within word List.mem_cons_self)
      have later := ih fun other member => within other (List.mem_cons_of_mem _ member)
      cases rest with
      | nil => simpa using here
      | cons next more =>
          rw [words_cons]
          exact within_append here (within_cons space later)

theorem words_filled (word : Text) (rest : List Text) :
    ∃ more, [' '].intercalate ((word :: rest).map quoted) = '"' :: more := by
  cases rest with
  | nil => exact ⟨guarded word ++ ['"'], by simp [quoted]⟩
  | cons next more => exact ⟨_, words_cons word next more⟩

theorem solid_words (words : List Text) : Solid ([' '].intercalate (words.map quoted)) := by
  induction words with
  | nil => exact ⟨fun c member => absurd member (by simp), fun c member => absurd member (by simp)⟩
  | cons word rest ih =>
      cases rest with
      | nil => simpa using solid_quoted word
      | cons next more =>
          obtain ⟨tail, shape⟩ := words_filled next more
          rw [words_cons]
          constructor
          · intro c member
            cases member
            rfl
          · intro c member
            apply ih.last c
            rw [shape] at member ⊢
            simpa using member

def isKeyChar (c : Char) : Bool := c ≠ '=' && !isSpace c

theorem entry_assignment {key value : Text} (named : key.all isKeyChar = true)
    (filled : key ≠ []) (unlike : key.head? ≠ some '[') (solid : Solid value) :
    entry (key ++ '=' :: value) = .assignment key value := by
  have plain : ∀ c ∈ key, c ≠ '=' ∧ isSpace c = false := by
    intro c member
    simpa [isKeyChar] using List.all_eq_true.mp named c member
  have named : Solid key := ⟨fun c member => (plain c (List.mem_of_mem_head? member)).2,
    fun c member => (plain c (List.mem_of_mem_getLast? member)).2⟩
  have whole : Solid (key ++ '=' :: value) := by
    constructor
    · intro c member
      apply named.first
      cases key with
      | nil => exact absurd rfl filled
      | cons d rest => exact member
    · intro c member
      rw [List.getLast?_append, List.getLast?_cons] at member
      cases last : value.getLast? with
      | none =>
          rw [last] at member
          cases member
          rfl
      | some d =>
          rw [last] at member
          cases member
          exact solid.last d last
  obtain ⟨front, back⟩ := cut_sign (fun member => (plain _ member).1 rfl) value
  have head : (key ++ '=' :: value).head? ≠ some '[' := by
    cases key with
    | nil => exact absurd rfl filled
    | cons d rest => exact unlike
  simp only [entry, strip_solid whole, if_neg head, back, front, strip_solid named,
    strip_solid solid]

-- The section that a list of lines ends in.
def headingAfter (current : Text) (all : List Text) : Text :=
  all.foldl (fun current line => match entry line with
    | .heading name => name
    | _ => current) current

theorem directives_append (current : Text) (first last : List Text) :
    directives current (first ++ last) =
      directives current first ++ directives (headingAfter current first) last := by
  induction first generalizing current with
  | nil => rfl
  | cons line rest ih =>
      rw [List.cons_append, directives, directives, headingAfter, List.foldl_cons]
      cases entry line with
      | nothing => exact ih current
      | heading name => exact ih name
      | assignment key value => exact congrArg _ (ih current)

theorem directives_assignments {Row : Type} (current : Text) (rows : List Row)
    {line : Row → Text} {key value : Row → Text}
    (each : ∀ row ∈ rows, entry (line row) = .assignment (key row) (value row)) :
    directives current (rows.map line) = rows.map (fun row => ⟨current, key row, value row⟩) ∧
      headingAfter current (rows.map line) = current := by
  induction rows with
  | nil => exact ⟨rfl, rfl⟩
  | cons row rest ih =>
      obtain ⟨listed, stays⟩ := ih fun other member => each other (List.mem_cons_of_mem _ member)
      have here := each row List.mem_cons_self
      constructor
      · rw [List.map_cons, directives, here, listed]
        rfl
      · rw [List.map_cons, headingAfter, List.foldl_cons, here]
        exact stays

theorem assigned_filled {heading key : Text} {all : List Directive}
    (filled : ∀ directive ∈ all, directive.value ≠ []) :
    assigned heading key all =
      (all.filter (Directive.isNamed heading key)).map Directive.value := by
  have collected (rest : List Directive) (present : ∀ directive ∈ rest, directive.value ≠ [])
      (values : List Text) : rest.foldl (fun values directive =>
        if directive.value = [] then [] else values ++ [directive.value]) values =
          values ++ rest.map Directive.value := by
    induction rest generalizing values with
    | nil => simp
    | cons directive rest ih =>
        have here := present directive List.mem_cons_self
        have later := ih fun other member => present other (List.mem_cons_of_mem _ member)
        rw [List.foldl_cons, if_neg here, later]
        simp
  rw [assigned, collected]
  · rfl
  · exact fun directive member => filled directive (List.mem_filter.mp member).1

end Missive.SystemdUnits
