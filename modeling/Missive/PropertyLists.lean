import Mathlib.Data.List.Basic
import Missive.PercentEncoding
import Missive.RustText

/-! Property lists in XML, read by the rules of XML: which characters a document may hold, what its
line ends are taken for, its tags, and the references in its text. A document with comments or
`CDATA` sections is not read, and attributes are passed over. -/
namespace Missive.PropertyLists

open RustText (Text)
open PercentEncoding (hexValue)

/-! Characters and line ends. -/

def isXmlChar (c : Char) : Bool :=
  let n := c.toNat
  c = '\t' || c = '\n' || c = '\r' || (0x20 ≤ n && n ≤ 0xD7FF) || (0xE000 ≤ n && n ≤ 0xFFFD) ||
    0x10000 ≤ n

-- A character that line ends and the rules of XML leave alone.
def isPlain (c : Char) : Bool := c ≠ '\r' && isXmlChar c

def isSpace (c : Char) : Bool := c = ' ' || c = '\t' || c = '\n' || c = '\r'

-- A carriage return is a line feed, and so are the two together.
def lineFeedsFrom : Bool → Text → Text
  | _, [] => []
  | returned, c :: rest =>
      if c = '\r' then '\n' :: lineFeedsFrom true rest
      else if c = '\n' ∧ returned = true then lineFeedsFrom false rest
      else c :: lineFeedsFrom false rest

attribute [local simp] lineFeedsFrom

def lineFeeds (text : Text) : Text := lineFeedsFrom false text

/-! References. -/

def predefined : List (Text × Char) :=
  [("amp".toList, '&'), ("lt".toList, '<'), ("gt".toList, '>'), ("quot".toList, '"'),
    ("apos".toList, '\'')]

def numeric (base : Nat) (digits : Text) : Option Char :=
  match digits.mapM fun c => (hexValue c).filter (· < base) with
  | none => none
  | some values =>
      let code := values.foldl (fun code value => code * base + value) 0
      if values ≠ [] ∧ code.isValidChar ∧ isXmlChar (Char.ofNat code) then some (Char.ofNat code)
      else none

def reference (name : Text) : Option Char :=
  match name with
  | '#' :: 'x' :: digits => numeric 16 digits
  | '#' :: digits => numeric 10 digits
  | name => predefined.lookup name

-- The first argument is the name of the reference that is being read.
def decodeFrom : Option Text → Text → Option Text
  | none, [] => some []
  | some _, [] => none
  | none, c :: rest =>
      if c = '&' then decodeFrom (some []) rest else (decodeFrom none rest).map (c :: ·)
  | some name, c :: rest =>
      if c = ';' then (reference name).bind fun d => (decodeFrom none rest).map (d :: ·)
      else decodeFrom (some (name ++ [c])) rest

def decode (text : Text) : Option Text := decodeFrom none text

/-! Elements. -/

inductive Value where
  | string (text : Text)
  | boolean (value : Bool)
  | array (items : List Value)
  | dict (rows : List (Text × Value))

-- What is open: the document, or an element and what it holds so far.
inductive Frame where
  | document (roots : List Value)
  | plist (roots : List Value)
  | dict (rows : List (Text × Value)) (key : Option Text)
  | array (items : List Value)
  | leaf (name read : Text)

def give (value : Value) : List Frame → Option (List Frame)
  | .document roots :: rest => some (.document (roots ++ [value]) :: rest)
  | .plist roots :: rest => some (.plist (roots ++ [value]) :: rest)
  | .dict rows (some key) :: rest => some (.dict (rows ++ [(key, value)]) none :: rest)
  | .array items :: rest => some (.array (items ++ [value]) :: rest)
  | _ => none

def giveKey (key : Text) : List Frame → Option (List Frame)
  | .dict rows none :: rest => some (.dict rows (some key) :: rest)
  | _ => none

def openTag (name : Text) (frames : List Frame) : Option (List Frame) :=
  if name = "plist".toList then some (.plist [] :: frames)
  else if name = "dict".toList then some (.dict [] none :: frames)
  else if name = "array".toList then some (.array [] :: frames)
  else if name = "key".toList ∨ name = "string".toList then some (.leaf name [] :: frames)
  else none

def closeTag (name : Text) : List Frame → Option (List Frame)
  | .plist [root] :: rest => if name = "plist".toList then give root rest else none
  | .dict rows none :: rest => if name = "dict".toList then give (.dict rows) rest else none
  | .array items :: rest => if name = "array".toList then give (.array items) rest else none
  | .leaf known read :: rest =>
      if name ≠ known then none
      else if name = "key".toList then giveKey read rest
      else give (.string read) rest
  | _ => none

def emptyTag (name : Text) (frames : List Frame) : Option (List Frame) :=
  if name = "true".toList then give (.boolean true) frames
  else if name = "false".toList then give (.boolean false) frames
  else if name = "string".toList then give (.string []) frames
  else if name = "array".toList then give (.array []) frames
  else if name = "dict".toList then give (.dict []) frames
  else none

def tagName (tag : Text) : Text := tag.takeWhile fun c => !isSpace c

-- What stands between `<` and `>`.
def readTag (tag : Text) (frames : List Frame) : Option (List Frame) :=
  if tag.head? = some '?' ∨ "!DOCTYPE".toList <+: tag then some frames
  else if tag.head? = some '/' then closeTag (tagName tag.tail) frames
  else if tag.getLast? = some '/' then emptyTag (tagName tag.dropLast) frames
  else openTag (tagName tag) frames

def readText (text : Text) : List Frame → Option (List Frame)
  | .leaf name read :: rest => (decode text).map fun more => .leaf name (read ++ more) :: rest
  | frames => if text.all isSpace then some frames else none

/-! Documents. -/

inductive Where where
  | text
  | tag (quote : Option Char)

structure Reading where
  frames : List Frame
  inside : Where
  read : Text

def step (reading : Reading) (c : Char) : Option Reading :=
  match reading.inside with
  | .text =>
      if c = '<' then (readText reading.read reading.frames).map fun frames =>
        ⟨frames, .tag none, []⟩
      else some ⟨reading.frames, .text, reading.read ++ [c]⟩
  | .tag none =>
      if c = '>' then (readTag reading.read reading.frames).map fun frames => ⟨frames, .text, []⟩
      else if c = '"' ∨ c = '\'' then some ⟨reading.frames, .tag (some c), reading.read ++ [c]⟩
      else some ⟨reading.frames, .tag none, reading.read ++ [c]⟩
  | .tag (some quote) =>
      some ⟨reading.frames, .tag (if c = quote then none else some quote), reading.read ++ [c]⟩

def finish (reading : Reading) : Option Value :=
  match reading with
  | ⟨[.document [root]], .text, read⟩ => if read.all isSpace then some root else none
  | _ => none

def run (text : Text) (reading : Reading) : Option Reading := text.foldlM step reading

def read (text : Text) : Option Value :=
  if text.all isXmlChar then (run (lineFeeds text) ⟨[.document []], .text, []⟩).bind finish
  else none

/-! Line ends of what is put together. -/

theorem lineFeedsFrom_plain {text : Text} (plain : '\r' ∉ text) (rest : Text) :
    lineFeedsFrom false (text ++ rest) = text ++ lineFeedsFrom false rest := by
  induction text with
  | nil => rfl
  | cons c more ih =>
      have other : c ≠ '\r' := fun same => plain (same ▸ List.mem_cons_self)
      have later := ih fun member => plain (List.mem_cons_of_mem c member)
      simp [other, later]

theorem lineFeeds_plain {text : Text} (plain : '\r' ∉ text) : lineFeeds text = text := by
  have alone := lineFeedsFrom_plain plain []
  rwa [List.append_nil, lineFeedsFrom, List.append_nil] at alone

theorem lineFeedsFrom_append (returned : Bool) (text : Text) {rest : Text}
    (starts : rest.head? ≠ some '\n') :
    lineFeedsFrom returned (text ++ rest) = lineFeedsFrom returned text ++ lineFeeds rest := by
  induction text generalizing returned with
  | nil =>
      cases rest with
      | nil => cases returned <;> rfl
      | cons c more =>
          have other : c ≠ '\n' := fun same => starts (same ▸ rfl)
          simp [lineFeeds, other]
  | cons c more ih =>
      rw [List.cons_append, lineFeedsFrom, lineFeedsFrom, ih true, ih false]
      split
      · rfl
      · split
        · rfl
        · rfl

theorem lineFeeds_append (text : Text) {rest : Text} (starts : rest.head? ≠ some '\n') :
    lineFeeds (text ++ rest) = lineFeeds text ++ lineFeeds rest :=
  lineFeedsFrom_append false text starts

theorem lineFeeds_flatten {chunks : List Text}
    (starts : ∀ chunk ∈ chunks, ∃ c rest, chunk = c :: rest ∧ c ≠ '\n') :
    lineFeeds chunks.flatten = (chunks.map lineFeeds).flatten := by
  induction chunks with
  | nil => rfl
  | cons chunk others ih =>
      have later := ih fun other member => starts other (List.mem_cons_of_mem _ member)
      have head : others.flatten.head? ≠ some '\n' := by
        cases others with
        | nil => simp
        | cons next more =>
            obtain ⟨c, rest, rfl, other⟩ := starts next (by simp)
            simpa using other
      rw [List.flatten_cons, lineFeeds_append chunk head, later, List.map_cons, List.flatten_cons]

theorem lineFeedsFrom_absent {text : Text} (returned : Bool) :
    '\r' ∉ lineFeedsFrom returned text := by
  induction text generalizing returned with
  | nil => simp
  | cons c rest ih =>
      rw [lineFeedsFrom]
      split
      · simpa using ih true
      · rename_i other
        split
        · exact ih false
        · simpa [Ne.symm other] using ih false

theorem plain_absent {text : Text} (plain : text.all isPlain = true) : '\r' ∉ text := by
  intro member
  exact absurd (List.all_eq_true.mp plain _ member) (by decide)

theorem plain_chars {text : Text} (plain : text.all isPlain = true) :
    text.all isXmlChar = true := by
  rw [List.all_eq_true] at plain ⊢
  exact fun c member => (Bool.and_eq_true_iff.mp (plain c member)).2

/-! Text is written with references. -/

def referenceTo (c : Char) : Text :=
  match predefined.find? fun entry => entry.2 = c with
  | some entry => '&' :: entry.1 ++ [';']
  | none => [c]

def escaped (text : Text) : Text := text.flatMap referenceTo

theorem escaped_cons (c : Char) (rest : Text) :
    escaped (c :: rest) = referenceTo c ++ escaped rest :=
  List.flatMap_cons

theorem referenceTo_cases (c : Char) :
    (∃ entry ∈ predefined, entry.2 = c ∧ referenceTo c = '&' :: entry.1 ++ [';']) ∨
      (∀ entry ∈ predefined, entry.2 ≠ c) ∧ referenceTo c = [c] := by
  unfold referenceTo
  cases found : predefined.find? fun entry => entry.2 = c with
  | some entry =>
      have same : entry.2 = c := by simpa using List.find?_some found
      exact .inl ⟨entry, List.mem_of_find?_eq_some found, same, rfl⟩
  | none =>
      refine .inr ⟨fun entry member same => ?_, rfl⟩
      have other := List.find?_eq_none.mp found entry member
      exact other (by simpa using same)

theorem referenceTo_other {c : Char} (other : c ∉ predefined.map Prod.snd) :
    referenceTo c = [c] := by
  rcases referenceTo_cases c with ⟨entry, listed, rfl, _⟩ | ⟨_, written⟩
  · exact absurd (List.mem_map_of_mem listed) other
  · exact written

theorem decode_reference {entry : Text × Char} (member : entry ∈ predefined) (rest : Text) :
    decodeFrom none ('&' :: entry.1 ++ [';'] ++ rest) =
      (decodeFrom none rest).map (entry.2 :: ·) := by
  simp only [predefined, List.mem_cons, List.not_mem_nil, or_false] at member
  rcases member with rfl | rfl | rfl | rfl | rfl <;> rfl

theorem decode_escaped (text : Text) : decode (escaped text) = some text := by
  unfold decode
  induction text with
  | nil => rfl
  | cons c rest ih =>
      rw [escaped_cons]
      rcases referenceTo_cases c with ⟨entry, member, rfl, written⟩ | ⟨other, written⟩
      · rw [written, decode_reference member, ih]
        rfl
      · have plain : c ≠ '&' := fun same => other ("amp".toList, '&') (by decide) same.symm
        rw [written]
        simp [decodeFrom, plain, ih]

theorem reference_plain : ∀ entry ∈ predefined, ∀ d ∈ '&' :: entry.1 ++ [';'],
    d ≠ '<' ∧ d ≠ '\n' ∧ d ≠ '\r' ∧ isXmlChar d = true := by
  have all : predefined.all (fun entry => ('&' :: entry.1 ++ [';']).all fun d =>
      d ≠ '<' && d ≠ '\n' && d ≠ '\r' && isXmlChar d) = true := by
    decide
  intro entry member d inside
  have here := List.all_eq_true.mp (List.all_eq_true.mp all entry member) d inside
  simpa [and_assoc] using here

theorem reference_special : ∀ entry ∈ predefined,
    entry.2 ≠ '\n' ∧ entry.2 ≠ '\r' ∧ isXmlChar entry.2 = true := by
  decide

theorem escaped_angle (text : Text) : '<' ∉ escaped text := by
  intro member
  obtain ⟨c, _, inside⟩ := List.mem_flatMap.mp member
  rcases referenceTo_cases c with ⟨entry, listed, rfl, written⟩ | ⟨other, written⟩
  · rw [written] at inside
    exact (reference_plain entry listed _ inside).1 rfl
  · rw [written] at inside
    exact other ("lt".toList, '<') (by decide) (List.mem_singleton.mp inside)

theorem escaped_all (text : Text) : (escaped text).all isXmlChar = text.all isXmlChar := by
  induction text with
  | nil => rfl
  | cons c rest ih =>
      rw [escaped_cons, List.all_append, List.all_cons, ih]
      congr 1
      rcases referenceTo_cases c with ⟨entry, listed, rfl, written⟩ | ⟨_, written⟩
      · rw [written, (reference_special entry listed).2.2, List.all_eq_true]
        exact fun d member => (reference_plain entry listed d member).2.2.2
      · simp [written]

theorem lineFeedsFrom_escaped (returned : Bool) (text : Text) :
    lineFeedsFrom returned (escaped text) = escaped (lineFeedsFrom returned text) := by
  induction text generalizing returned with
  | nil => rfl
  | cons c rest ih =>
      rw [escaped_cons]
      rcases referenceTo_cases c with ⟨entry, listed, rfl, written⟩ | ⟨_, written⟩
      · have plain := reference_plain entry listed
        have special := reference_special entry listed
        have kept : lineFeedsFrom returned ('&' :: entry.1 ++ [';'] ++ escaped rest) =
            '&' :: entry.1 ++ [';'] ++ lineFeedsFrom false (escaped rest) := by
          have first : lineFeedsFrom returned ('&' :: (entry.1 ++ [';'] ++ escaped rest)) =
              '&' :: lineFeedsFrom false (entry.1 ++ [';'] ++ escaped rest) := by
            simp
          have absent : '\r' ∉ entry.1 ++ [';'] :=
            fun member => (plain _ (List.mem_cons_of_mem _ member)).2.2.1 rfl
          rw [List.cons_append, List.cons_append, first, lineFeedsFrom_plain absent]
          rfl
        rw [written, kept, ih false, lineFeedsFrom, if_neg special.2.1,
          if_neg fun both => special.1 both.1, escaped_cons, written]
      · rw [written, List.singleton_append, lineFeedsFrom, lineFeedsFrom, ih true, ih false]
        split
        · rfl
        · split
          · rfl
          · rw [escaped_cons, written, List.singleton_append]

theorem lineFeeds_escaped (text : Text) : lineFeeds (escaped text) = escaped (lineFeeds text) :=
  lineFeedsFrom_escaped false text

/-! Elements that hold a text. -/

theorem run_append {first last : Text} {start middle : Reading}
    (reads : run first start = some middle) :
    run (first ++ last) start = run last middle := by
  unfold run at reads ⊢
  rw [List.foldlM_append, reads]
  rfl

theorem run_cons {c : Char} {rest : Text} {start middle : Reading}
    (reads : step start c = some middle) :
    run (c :: rest) start = run rest middle := by
  unfold run
  rw [List.foldlM_cons, reads]
  rfl

theorem run_text (frames : List Frame) (before : Text) {text : Text} (plain : '<' ∉ text) :
    run text ⟨frames, .text, before⟩ = some ⟨frames, .text, before ++ text⟩ := by
  induction text generalizing before with
  | nil => simp [run]
  | cons c rest ih =>
      have other : c ≠ '<' := fun same => plain (same ▸ List.mem_cons_self)
      have here : step ⟨frames, .text, before⟩ c = some ⟨frames, .text, before ++ [c]⟩ := by
        simp [step, other]
      rw [run_cons here, ih _ fun member => plain (List.mem_cons_of_mem c member),
        List.append_assoc]
      rfl

-- The quotes that are open after a text inside a tag, which the text does not end.
def inTag (quote : Option Char) (text : Text) : Option (Option Char) :=
  text.foldlM (fun quote c => match quote with
    | none => if c = '>' then none else if c = '"' ∨ c = '\'' then some (some c) else some none
    | some mark => some (if c = mark then none else some mark)) quote

theorem run_tag (frames : List Frame) (before : Text) {quote after : Option Char} {tag : Text}
    (whole : inTag quote tag = some after) :
    run tag ⟨frames, .tag quote, before⟩ = some ⟨frames, .tag after, before ++ tag⟩ := by
  induction tag generalizing quote before with
  | nil =>
      cases whole
      simp [run]
  | cons c rest ih =>
      obtain ⟨middle, first, later⟩ := Option.bind_eq_some_iff.mp whole
      have here : step ⟨frames, .tag quote, before⟩ c =
          some ⟨frames, .tag middle, before ++ [c]⟩ := by
        cases quote with
        | none =>
            simp only at first
            by_cases closes : c = '>'
            · rw [if_pos closes] at first
              cases first
            · rw [if_neg closes] at first
              by_cases marks : c = '"' ∨ c = '\''
              · rw [if_pos marks] at first
                cases first
                simp [step, closes, marks]
              · rw [if_neg marks] at first
                cases first
                simp [step, closes, marks]
        | some mark =>
            cases first
            simp [step]
      rw [run_cons here, ih _ later, List.append_assoc]
      rfl

-- A tag takes the text before it, and then has its own effect.
theorem run_markup {frames middle after : List Frame} {before tag : Text}
    (whole : inTag none tag = some none) (taken : readText before frames = some middle)
    (effect : readTag tag middle = some after) (rest : Text) :
    run ('<' :: tag ++ '>' :: rest) ⟨frames, .text, before⟩ = run rest ⟨after, .text, []⟩ := by
  have opened : step ⟨frames, .text, before⟩ '<' = some ⟨middle, .tag none, []⟩ := by
    simp [step, taken]
  have closed : step ⟨middle, .tag none, tag⟩ '>' = some ⟨after, .text, []⟩ := by
    simp [step, effect]
  rw [List.cons_append, run_cons opened, run_append (run_tag middle [] whole), List.nil_append,
    run_cons closed]

-- `<tag>` on a line of its own.
def markup (indent : Nat) (tag : Text) : Text :=
  List.replicate indent ' ' ++ ('<' :: tag ++ '>' :: ['\n'])

-- `<name>text</name>` on a line of its own.
def element (indent : Nat) (name text : Text) : Text :=
  List.replicate indent ' ' ++
    ('<' :: name ++ '>' :: (escaped text ++ ('<' :: ('/' :: name) ++ '>' :: ['\n'])))

def leafNames : List Text := ["key".toList, "string".toList]

theorem leaf_tags : ∀ name ∈ leafNames,
    inTag none name = some none ∧ inTag none ('/' :: name) = some none := by
  decide

-- Outside keys and strings only white space stands between the tags.
def Holds (frames : List Frame) : Prop :=
  ∀ text, text.all isSpace = true → readText text frames = some frames

theorem indented {frames : List Frame} {before : Text} (holds : Holds frames)
    (blank : before.all isSpace = true) (indent : Nat) :
    readText (before ++ List.replicate indent ' ') frames = some frames ∧
      '<' ∉ List.replicate indent ' ' := by
  constructor
  · apply holds
    rw [List.all_append, blank, Bool.true_and, List.all_eq_true]
    intro c member
    rw [List.eq_of_mem_replicate member]
    rfl
  · intro member
    exact absurd (List.eq_of_mem_replicate member) (by decide)

theorem run_line {frames after : List Frame} {before tag : Text} (indent : Nat)
    (whole : inTag none tag = some none) (holds : Holds frames)
    (blank : before.all isSpace = true) (effect : readTag tag frames = some after) (rest : Text) :
    run (markup indent tag ++ rest) ⟨frames, .text, before⟩ = run rest ⟨after, .text, ['\n']⟩ := by
  obtain ⟨taken, spaces⟩ := indented holds blank indent
  have shape : markup indent tag ++ rest =
      List.replicate indent ' ' ++ ('<' :: tag ++ '>' :: ('\n' :: rest)) := by
    simp [markup]
  have fed : step ⟨after, .text, []⟩ '\n' = some ⟨after, .text, ['\n']⟩ := rfl
  rw [shape, run_append (run_text frames before spaces),
    run_markup whole taken effect, run_cons fed]

theorem run_element {frames after : List Frame} {before name text : Text} (indent : Nat)
    (leaf : name ∈ leafNames) (holds : Holds frames) (blank : before.all isSpace = true)
    (closes : closeTag name (.leaf name text :: frames) = some after) (rest : Text) :
    run (element indent name text ++ rest) ⟨frames, .text, before⟩ =
      run rest ⟨after, .text, ['\n']⟩ := by
  obtain ⟨taken, spaces⟩ := indented holds blank indent
  have begun : readTag name frames = some (.leaf name [] :: frames) := by
    simp only [leafNames, List.mem_cons, List.not_mem_nil, or_false] at leaf
    rcases leaf with rfl | rfl <;> rfl
  have ended : readTag ('/' :: name) (.leaf name text :: frames) = some after := by
    rw [← closes]
    simp only [leafNames, List.mem_cons, List.not_mem_nil, or_false] at leaf
    rcases leaf with rfl | rfl <;> rfl
  have content : readText (escaped text) (.leaf name [] :: frames) =
      some (.leaf name text :: frames) := by
    simp [readText, decode_escaped]
  have shape : element indent name text ++ rest = List.replicate indent ' ' ++
      ('<' :: name ++ '>' :: (escaped text ++
        ('<' :: ('/' :: name) ++ '>' :: ('\n' :: rest)))) := by
    simp [element]
  have fed : step ⟨after, .text, []⟩ '\n' = some ⟨after, .text, ['\n']⟩ := rfl
  rw [shape, run_append (run_text frames before spaces),
    run_markup (leaf_tags name leaf).1 taken begun,
    run_append (run_text _ [] (escaped_angle text)), List.nil_append,
    run_markup (leaf_tags name leaf).2 content ended, run_cons fed]

/-! Line ends and characters of elements. -/

theorem leaf_plain :
    ∀ name ∈ leafNames, ('<' :: ('/' :: name) ++ ['>', '\n']).all isPlain = true := by
  decide

theorem spaces_plain (indent : Nat) : (List.replicate indent ' ').all isPlain = true := by
  rw [List.all_eq_true]
  intro c member
  rw [List.eq_of_mem_replicate member]
  decide

def opening (indent : Nat) (name : Text) : Text := List.replicate indent ' ' ++ '<' :: name ++ ['>']

def closing (name : Text) : Text := '<' :: ('/' :: name) ++ ['>', '\n']

theorem element_parts (indent : Nat) (name text : Text) :
    element indent name text = opening indent name ++ (escaped text ++ closing name) := by
  simp [element, opening, closing]

theorem opening_plain (indent : Nat) {name : Text} (leaf : name ∈ leafNames) :
    (opening indent name).all isPlain = true := by
  have named : ∀ name ∈ leafNames, ('<' :: name ++ ['>']).all isPlain = true := by decide
  rw [opening, List.append_assoc, List.all_append, spaces_plain, named name leaf, Bool.and_self]

theorem lineFeeds_element (indent : Nat) {name : Text} (leaf : name ∈ leafNames) (text : Text) :
    lineFeeds (element indent name text) = element indent name (lineFeeds text) := by
  have front := plain_absent (opening_plain indent leaf)
  have back : '\r' ∉ closing name := plain_absent (leaf_plain name leaf)
  have starts : (closing name).head? ≠ some '\n' := by simp [closing]
  have inner : lineFeeds (escaped text ++ closing name) =
      escaped (lineFeeds text) ++ closing name := by
    rw [lineFeeds_append _ starts, lineFeeds_escaped, lineFeeds_plain back]
  rw [element_parts, lineFeeds, lineFeedsFrom_plain front, element_parts]
  exact congrArg _ inner

theorem element_all (indent : Nat) {name : Text} (leaf : name ∈ leafNames) (text : Text) :
    (element indent name text).all isXmlChar = text.all isXmlChar := by
  have front := plain_chars (opening_plain indent leaf)
  have back : (closing name).all isXmlChar = true := plain_chars (leaf_plain name leaf)
  rw [element_parts, List.all_append, List.all_append, front, back, escaped_all, Bool.true_and,
    Bool.and_true]

/-! Documents line by line. -/

inductive Piece where
  | tag (indent : Nat) (text : Text)
  | leaf (indent : Nat) (name text : Text)
  deriving DecidableEq

def Piece.written : Piece → Text
  | .tag indent text => markup indent text
  | .leaf indent name text => element indent name text

def Piece.feeds : Piece → Piece
  | .tag indent text => .tag indent text
  | .leaf indent name text => .leaf indent name (lineFeeds text)

def Piece.hasXmlChars : Piece → Bool
  | .tag _ _ => true
  | .leaf _ _ text => text.all isXmlChar

-- A line that can be read by itself.
def Piece.Sound : Piece → Prop
  | .tag _ text => inTag none text = some none ∧ text.all isPlain = true
  | .leaf _ name _ => name ∈ leafNames

instance : DecidablePred Piece.Sound
  | .tag _ text => inferInstanceAs
      (Decidable (inTag none text = some none ∧ text.all isPlain = true))
  | .leaf _ name _ => inferInstanceAs (Decidable (name ∈ leafNames))

def isLeaf : List Frame → Bool
  | .leaf _ _ :: _ => true
  | _ => false

-- What a line does outside keys and strings.
def Piece.effect (frames : List Frame) (piece : Piece) : Option (List Frame) :=
  if isLeaf frames then none
  else match piece with
    | .tag _ text => readTag text frames
    | .leaf _ name text => closeTag name (.leaf name text :: frames)

theorem holds_outside {frames : List Frame} (outside : isLeaf frames = false) : Holds frames := by
  intro text blank
  cases frames with
  | nil => simp [readText, blank]
  | cons frame rest =>
      cases frame with
      | leaf name read => cases outside
      | document roots => simp [readText, blank]
      | plist roots => simp [readText, blank]
      | dict rows key => simp [readText, blank]
      | array items => simp [readText, blank]

theorem run_piece {piece : Piece} (sound : piece.Sound) {frames after : List Frame} {before : Text}
    (blank : before.all isSpace = true) (acts : piece.effect frames = some after) (rest : Text) :
    run (piece.written ++ rest) ⟨frames, .text, before⟩ = run rest ⟨after, .text, ['\n']⟩ := by
  unfold Piece.effect at acts
  by_cases inside : isLeaf frames = true
  · rw [if_pos inside] at acts
    cases acts
  · rw [if_neg inside] at acts
    have holds := holds_outside (by simpa using inside)
    cases piece with
    | tag indent text => exact run_line indent sound.1 holds blank acts rest
    | leaf indent name text => exact run_element indent sound holds blank acts rest

theorem run_pieces {pieces : List Piece} (sound : ∀ piece ∈ pieces, piece.Sound)
    {frames after : List Frame} {before : Text} (blank : before.all isSpace = true)
    (acts : pieces.foldlM Piece.effect frames = some after) :
    ∃ left, left.all isSpace = true ∧
      run (pieces.flatMap Piece.written) ⟨frames, .text, before⟩ = some ⟨after, .text, left⟩ := by
  induction pieces generalizing frames before with
  | nil =>
      cases acts
      exact ⟨before, blank, rfl⟩
  | cons piece others ih =>
      obtain ⟨middle, first, later⟩ := Option.bind_eq_some_iff.mp acts
      rw [List.flatMap_cons, run_piece (sound piece List.mem_cons_self) blank first]
      exact ih (fun other member => sound other (List.mem_cons_of_mem _ member)) (by decide) later

theorem markup_plain (indent : Nat) {text : Text} (plain : text.all isPlain = true) :
    (markup indent text).all isPlain = true := by
  have ends : ('>' :: ['\n']).all isPlain = true := by decide
  have opens : isPlain '<' = true := by decide
  rw [markup, List.all_append, spaces_plain, List.cons_append, List.all_cons, List.all_append,
    plain, ends, opens]
  rfl

theorem lineFeeds_piece {piece : Piece} (sound : piece.Sound) :
    lineFeeds piece.written = piece.feeds.written := by
  cases piece with
  | tag indent text => exact lineFeeds_plain (plain_absent (markup_plain indent sound.2))
  | leaf indent name text => exact lineFeeds_element indent sound text

theorem written_starts (piece : Piece) : ∃ c rest, piece.written = c :: rest ∧ c ≠ '\n' := by
  have starts (indent : Nat) (rest : Text) : ∃ c more,
      List.replicate indent ' ' ++ '<' :: rest = c :: more ∧ c ≠ '\n' := by
    cases indent with
    | zero => exact ⟨'<', rest, rfl, by decide⟩
    | succ indent => exact ⟨' ', _, rfl, by decide⟩
  cases piece with
  | tag indent text => exact starts indent _
  | leaf indent name text => exact starts indent _

theorem lineFeeds_pieces {pieces : List Piece} (sound : ∀ piece ∈ pieces, piece.Sound) :
    lineFeeds (pieces.flatMap Piece.written) = (pieces.map Piece.feeds).flatMap Piece.written := by
  have starts : ∀ chunk ∈ pieces.map Piece.written, ∃ c rest, chunk = c :: rest ∧ c ≠ '\n' := by
    intro chunk member
    obtain ⟨piece, _, rfl⟩ := List.mem_map.mp member
    exact written_starts piece
  rw [List.flatMap_def, lineFeeds_flatten starts, List.map_map, List.flatMap_map, List.flatMap_def]
  exact congrArg List.flatten
    (List.map_congr_left fun piece member => lineFeeds_piece (sound piece member))

theorem written_all {pieces : List Piece} (sound : ∀ piece ∈ pieces, piece.Sound) :
    (pieces.flatMap Piece.written).all isXmlChar = pieces.all Piece.hasXmlChars := by
  induction pieces with
  | nil => rfl
  | cons piece others ih =>
      have here : piece.written.all isXmlChar = piece.hasXmlChars := by
        cases piece with
        | tag indent text =>
            exact plain_chars (markup_plain indent (sound _ List.mem_cons_self).2)
        | leaf indent name text => exact element_all indent (sound _ List.mem_cons_self) text
      have later := ih fun other member => sound other (List.mem_cons_of_mem _ member)
      rw [List.flatMap_cons, List.all_append, List.all_cons, here, later]

theorem sound_feeds {piece : Piece} (sound : piece.Sound) : piece.feeds.Sound := by
  cases piece with
  | tag indent text => exact sound
  | leaf indent name text => exact sound

/-- A document of such lines is read by what its lines do, once its line ends are line feeds, if it
holds nothing but characters of XML. -/
theorem read_pieces {pieces : List Piece} (sound : ∀ piece ∈ pieces, piece.Sound) {root : Value}
    (acts : (pieces.map Piece.feeds).foldlM Piece.effect [.document []] = some [.document [root]]) :
    read (pieces.flatMap Piece.written) =
      if pieces.all Piece.hasXmlChars then some root else none := by
  have fed : ∀ piece ∈ pieces.map Piece.feeds, piece.Sound := by
    intro piece member
    obtain ⟨given, listed, rfl⟩ := List.mem_map.mp member
    exact sound_feeds (sound given listed)
  have nothing : ([] : Text).all isSpace = true := rfl
  obtain ⟨left, blank, ran⟩ := run_pieces fed nothing acts
  rw [read, written_all sound, lineFeeds_pieces sound, ran]
  simp [finish, blank]

end Missive.PropertyLists
