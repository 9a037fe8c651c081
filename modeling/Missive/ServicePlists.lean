import Missive.PropertyLists
import Missive.ServiceFiles

/-! The property list that an install writes, and what is read from it. -/
namespace Missive.ServicePlists

open RustText (Text)
open TextReplacement (replace replace_single)
open PropertyLists
open ServiceFiles

/-! Elements. -/

theorem xmlEscape_text (value : String) : (xmlEscape value).toList = escaped value.toList := by
  have each (c : Char) : ((((if c = '&' then "&amp;".toList else [c]).flatMap fun d =>
      if d = '<' then "&lt;".toList else [d]).flatMap fun d =>
        if d = '>' then "&gt;".toList else [d]).flatMap fun d =>
          if d = '"' then "&quot;".toList else [d]).flatMap (fun d =>
            if d = '\'' then "&apos;".toList else [d]) = referenceTo c := by
    by_cases ampersand : c = '&'
    · subst ampersand
      decide
    · by_cases less : c = '<'
      · subst less
        decide
      · by_cases more : c = '>'
        · subst more
          decide
        · by_cases mark : c = '"'
          · subst mark
            decide
          · by_cases apostrophe : c = '\''
            · subst apostrophe
              decide
            · have special : predefined.map Prod.snd = ['&', '<', '>', '"', '\''] := rfl
              have other : c ∉ predefined.map Prod.snd := by
                rw [special]
                simp [ampersand, less, more, mark, apostrophe]
              rw [referenceTo_other other]
              simp only [if_neg ampersand, if_neg less, if_neg more, if_neg mark,
                if_neg apostrophe, List.flatMap_singleton]
  simp only [xmlEscape, xmlReplacements, List.foldl_cons, List.foldl_nil, replace_single,
    List.flatMap_assoc, String.toList_ofList, escaped]
  refine congrArg (value.toList.flatMap ·) (funext fun c => ?_)
  rw [← each c]
  simp only [List.flatMap_assoc]

theorem spaces_text (indent : Nat) : (spaces indent).toList = List.replicate (indent * 2) ' ' := by
  induction indent with
  | zero => rfl
  | succ indent ih =>
      have longer : spaces (indent + 1) = "  " ++ spaces indent := by
        rw [spaces, List.replicate_succ, String.join_cons]
        rfl
      have pair : "  ".toList = List.replicate 2 ' ' := by decide
      rw [longer, String.toList_append, ih, pair, ← List.replicate_add]
      congr 1
      omega

theorem plistString_text (indent : Nat) (value : String) :
    (plistString indent value).toList = element (indent * 2) "string".toList value.toList := by
  have opens : "<string>".toList = '<' :: "string".toList ++ ['>'] := by decide
  have closes : "</string>\n".toList = '<' :: ('/' :: "string".toList) ++ ['>', '\n'] := by decide
  simp only [plistString, String.toList_append, spaces_text, xmlEscape_text, opens, closes, element,
    List.append_assoc, List.cons_append, List.nil_append]

theorem plistKeyString_text (indent : Nat) (key value : String) :
    (plistKeyString indent key value).toList = element (indent * 2) "key".toList key.toList ++
      element (indent * 2) "string".toList value.toList := by
  have opens : "<key>".toList = '<' :: "key".toList ++ ['>'] := by decide
  have closes : "</key>\n".toList = '<' :: ('/' :: "key".toList) ++ ['>', '\n'] := by decide
  have named : (spaces indent ++ "<key>" ++ xmlEscape key ++ "</key>\n").toList =
      element (indent * 2) "key".toList key.toList := by
    simp only [String.toList_append, spaces_text, xmlEscape_text, opens, closes, element,
      List.append_assoc, List.cons_append, List.nil_append]
  rw [plistKeyString, String.toList_append, named, plistString_text]

/-! The lines of a property list. -/

def tag (indent : Nat) (text : String) : Piece := .tag indent text.toList

def key (indent : Nat) (text : String) : Piece := .leaf indent "key".toList text.toList

def string (indent : Nat) (text : Text) : Piece := .leaf indent "string".toList text

def headTags : List String :=
  ["?xml version=\"1.0\" encoding=\"UTF-8\"?",
    "!DOCTYPE plist PUBLIC \"-//Apple//DTD PLIST 1.0//EN\" \"http://www.apple.com/DTDs/PropertyList-1.0.dtd\"",
    "plist version=\"1.0\"", "dict"]

def headPieces : List Piece := headTags.map (tag 0)

def rowPieces (indent : Nat) (name value : Text) : List Piece :=
  [.leaf indent "key".toList name, string indent value]

def openingPieces : List Piece :=
  headPieces ++ (rowPieces 2 "Label".toList defaultLaunchdLabel.toList ++
    [key 2 "ProgramArguments", tag 2 "array"])

def environmentPieces (rows : List (Text × Text)) : List Piece :=
  if rows = [] then []
  else [key 2 "EnvironmentVariables", tag 2 "dict"] ++
    rows.flatMap (fun row => rowPieces 4 row.1 row.2) ++ [tag 2 "/dict"]

def switchPieces : List Piece :=
  [key 2 "KeepAlive", tag 2 "true/", key 2 "RunAtLoad", tag 2 "true/"]

def lastPieces : List Piece := [tag 0 "/dict", tag 0 "/plist"]

def closingPieces (stdoutPath stderrPath : Text) : List Piece :=
  switchPieces ++ (rowPieces 2 "StandardOutPath".toList stdoutPath ++
    (rowPieces 2 "StandardErrorPath".toList stderrPath ++ lastPieces))

def plistPieces (words : List Text) (rows : List (Text × Text)) (stdoutPath stderrPath : Text) :
    List Piece :=
  openingPieces ++ words.map (string 4) ++ [tag 2 "/array"] ++ environmentPieces rows ++
    closingPieces stdoutPath stderrPath

theorem openingPieces_sound : ∀ piece ∈ openingPieces, piece.Sound := by
  decide

theorem rowPieces_sound (indent : Nat) (name value : Text) :
    ∀ piece ∈ rowPieces indent name value, piece.Sound := by
  intro piece member
  simp only [rowPieces, List.mem_cons, List.not_mem_nil, or_false] at member
  rcases member with rfl | rfl
  · exact List.mem_cons_self
  · exact List.mem_cons_of_mem _ List.mem_cons_self

theorem environmentPieces_sound (rows : List (Text × Text)) :
    ∀ piece ∈ environmentPieces rows, piece.Sound := by
  intro piece member
  unfold environmentPieces at member
  by_cases empty : rows = []
  · rw [if_pos empty] at member
    exact absurd member List.not_mem_nil
  · rw [if_neg empty] at member
    have first : ∀ piece ∈ [key 2 "EnvironmentVariables", tag 2 "dict"], piece.Sound := by decide
    have last : ∀ piece ∈ [tag 2 "/dict"], piece.Sound := by decide
    rcases List.mem_append.mp member with front | ending
    · rcases List.mem_append.mp front with begins | given
      · exact first piece begins
      · obtain ⟨row, _, inside⟩ := List.mem_flatMap.mp given
        exact rowPieces_sound 4 row.1 row.2 piece inside
    · exact last piece ending

theorem closingPieces_sound (stdoutPath stderrPath : Text) :
    ∀ piece ∈ closingPieces stdoutPath stderrPath, piece.Sound := by
  have switches : ∀ piece ∈ switchPieces, piece.Sound := by decide
  have ending : ∀ piece ∈ lastPieces, piece.Sound := by decide
  intro piece member
  rcases List.mem_append.mp member with front | back
  · exact switches piece front
  · rcases List.mem_append.mp back with output | rest
    · exact rowPieces_sound _ _ _ piece output
    · rcases List.mem_append.mp rest with failure | last
      · exact rowPieces_sound _ _ _ piece failure
      · exact ending piece last

theorem plistPieces_sound (words : List Text) (rows : List (Text × Text))
    (stdoutPath stderrPath : Text) :
    ∀ piece ∈ plistPieces words rows stdoutPath stderrPath, piece.Sound := by
  have closes : ∀ piece ∈ [tag 2 "/array"], piece.Sound := by decide
  intro piece member
  rcases List.mem_append.mp member with front | ending
  · rcases List.mem_append.mp front with arguments | environment
    · rcases List.mem_append.mp arguments with before | after
      · rcases List.mem_append.mp before with opened | word
        · exact openingPieces_sound piece opened
        · obtain ⟨text, _, rfl⟩ := List.mem_map.mp word
          exact List.mem_cons_of_mem _ List.mem_cons_self
      · exact closes piece after
    · exact environmentPieces_sound rows piece environment
  · exact closingPieces_sound stdoutPath stderrPath piece ending

/-! What the lines say. -/

def plistRows (words : List Text) (rows : List (Text × Text)) (stdoutPath stderrPath : Text) :
    List (Text × Value) :=
  [("Label".toList, .string defaultLaunchdLabel.toList),
    ("ProgramArguments".toList, .array (words.map .string))] ++
  (if rows = [] then []
    else [("EnvironmentVariables".toList, .dict (rows.map fun row => (row.1, .string row.2)))]) ++
  [("KeepAlive".toList, .boolean true), ("RunAtLoad".toList, .boolean true),
    ("StandardOutPath".toList, .string stdoutPath),
    ("StandardErrorPath".toList, .string stderrPath)]

set_option maxRecDepth 4000 in
theorem opening_acts : openingPieces.foldlM Piece.effect [.document []] =
    some [.array [], .dict [("Label".toList, .string defaultLaunchdLabel.toList)]
      (some "ProgramArguments".toList), .plist [], .document []] := rfl

theorem words_act (frames : List Frame) (items : List Value) (words : List Text) :
    (words.map (string 4)).foldlM Piece.effect (.array items :: frames) =
      some (.array (items ++ words.map .string) :: frames) := by
  induction words generalizing items with
  | nil => simp
  | cons word rest ih =>
      have here : Piece.effect (.array items :: frames) (string 4 word) =
          some (.array (items ++ [.string word]) :: frames) := rfl
      rw [List.map_cons, List.foldlM_cons, here, Option.bind_eq_bind, Option.bind_some, ih]
      simp

theorem row_acts (indent : Nat) (frames : List Frame) (done : List (Text × Value))
    (name value : Text) :
    (rowPieces indent name value).foldlM Piece.effect (.dict done none :: frames) =
      some (.dict (done ++ [(name, .string value)]) none :: frames) := rfl

theorem rows_act (frames : List Frame) (done : List (Text × Value)) (rows : List (Text × Text)) :
    (rows.flatMap fun row => rowPieces 4 row.1 row.2).foldlM Piece.effect
        (.dict done none :: frames) =
      some (.dict (done ++ rows.map fun row => (row.1, .string row.2)) none :: frames) := by
  induction rows generalizing done with
  | nil => simp
  | cons row rest ih =>
      rw [List.flatMap_cons, List.foldlM_append, row_acts, Option.bind_eq_bind,
        Option.bind_some, ih]
      simp

theorem environment_acts (frames : List Frame) (done : List (Text × Value))
    (rows : List (Text × Text)) :
    (environmentPieces rows).foldlM Piece.effect (.dict done none :: frames) =
      some (.dict (done ++ if rows = [] then [] else [("EnvironmentVariables".toList,
        .dict (rows.map fun row => (row.1, .string row.2)))]) none :: frames) := by
  unfold environmentPieces
  by_cases empty : rows = []
  · simp [empty]
  · have begins : [key 2 "EnvironmentVariables", tag 2 "dict"].foldlM Piece.effect
        (.dict done none :: frames) =
          some (.dict [] none :: .dict done (some "EnvironmentVariables".toList) :: frames) := rfl
    have ends (inner : List (Text × Value)) : [tag 2 "/dict"].foldlM Piece.effect
        (.dict inner none :: .dict done (some "EnvironmentVariables".toList) :: frames) =
          some (.dict (done ++ [("EnvironmentVariables".toList, .dict inner)]) none ::
            frames) := rfl
    rw [if_neg empty, if_neg empty, List.foldlM_append, List.foldlM_append, begins]
    simp only [Option.bind_eq_bind, Option.bind_some, rows_act, ends, List.nil_append]

theorem closing_acts (rows : List (Text × Value)) (stdoutPath stderrPath : Text) :
    (closingPieces stdoutPath stderrPath).foldlM Piece.effect
        [.dict rows none, .plist [], .document []] =
      some [.document [.dict (rows ++ [("KeepAlive".toList, .boolean true)] ++
        [("RunAtLoad".toList, .boolean true)] ++ [("StandardOutPath".toList, .string stdoutPath)] ++
        [("StandardErrorPath".toList, .string stderrPath)])]] := by
  have switches : switchPieces.foldlM Piece.effect [.dict rows none, .plist [], .document []] =
      some [.dict (rows ++ [("KeepAlive".toList, .boolean true)] ++
        [("RunAtLoad".toList, .boolean true)]) none, .plist [], .document []] := rfl
  have ends (rows : List (Text × Value)) :
      lastPieces.foldlM Piece.effect [.dict rows none, .plist [], .document []] =
        some [.document [.dict rows]] := rfl
  simp only [closingPieces, List.foldlM_append, switches, Option.bind_eq_bind, Option.bind_some,
    row_acts, ends]

theorem plistPieces_act (words : List Text) (rows : List (Text × Text))
    (stdoutPath stderrPath : Text) :
    (plistPieces words rows stdoutPath stderrPath).foldlM Piece.effect [.document []] =
      some [.document [.dict (plistRows words rows stdoutPath stderrPath)]] := by
  have closes (frames : List Frame) (rows : List (Text × Value)) (name : Text)
      (items : List Value) :
      [tag 2 "/array"].foldlM Piece.effect (.array items :: .dict rows (some name) :: frames) =
        some (.dict (rows ++ [(name, .array items)]) none :: frames) := rfl
  rw [plistPieces, List.foldlM_append, List.foldlM_append, List.foldlM_append, List.foldlM_append,
    opening_acts]
  simp only [Option.bind_eq_bind, Option.bind_some, words_act, closes, environment_acts,
    closing_acts, plistRows, List.nil_append, List.append_assoc, List.cons_append]

def bothFed (row : Text × Text) : Text × Text := (lineFeeds row.1, lineFeeds row.2)

theorem rowPieces_feeds (indent : Nat) (name value : Text) :
    (rowPieces indent name value).map Piece.feeds =
      rowPieces indent (lineFeeds name) (lineFeeds value) := rfl

theorem opening_feeds : openingPieces.map Piece.feeds = openingPieces := by
  have head : headPieces.map Piece.feeds = headPieces := rfl
  have named := rowPieces_feeds 2 "Label".toList defaultLaunchdLabel.toList
  have plain : lineFeeds "Label".toList = "Label".toList ∧
      lineFeeds defaultLaunchdLabel.toList = defaultLaunchdLabel.toList := by decide
  have arguments : [key 2 "ProgramArguments", tag 2 "array"].map Piece.feeds =
      [key 2 "ProgramArguments", tag 2 "array"] := by decide
  rw [plain.1, plain.2] at named
  rw [openingPieces, List.map_append, List.map_append, head, named, arguments]

theorem key_feeds {text : String} (plain : '\r' ∉ text.toList) (indent : Nat) :
    (key indent text).feeds = key indent text := by
  simp only [key, Piece.feeds, lineFeeds_plain plain]

theorem environment_feeds (rows : List (Text × Text)) :
    (environmentPieces rows).map Piece.feeds = environmentPieces (rows.map bothFed) := by
  unfold environmentPieces
  by_cases empty : rows = []
  · subst empty
    rfl
  · have filled : rows.map bothFed ≠ [] := by simpa using empty
    have named := @key_feeds "EnvironmentVariables" (by decide) 2
    have inner : (rows.flatMap fun row => rowPieces 4 row.1 row.2).map Piece.feeds =
        (rows.map bothFed).flatMap fun row => rowPieces 4 row.1 row.2 := by
      rw [List.map_flatMap, List.flatMap_map]
      rfl
    rw [if_neg empty, if_neg filled, List.map_append, List.map_append, inner, List.map_cons, named]
    rfl

theorem closing_feeds (stdoutPath stderrPath : Text) :
    (closingPieces stdoutPath stderrPath).map Piece.feeds =
      closingPieces (lineFeeds stdoutPath) (lineFeeds stderrPath) := by
  have switches : switchPieces.map Piece.feeds = switchPieces := by decide
  have ending : lastPieces.map Piece.feeds = lastPieces := by decide
  have output : lineFeeds "StandardOutPath".toList = "StandardOutPath".toList := by decide
  have failure : lineFeeds "StandardErrorPath".toList = "StandardErrorPath".toList := by decide
  simp only [closingPieces, List.map_append, switches, ending, rowPieces_feeds, output, failure]

theorem plistPieces_feeds (words : List Text) (rows : List (Text × Text))
    (stdoutPath stderrPath : Text) :
    (plistPieces words rows stdoutPath stderrPath).map Piece.feeds =
      plistPieces (words.map lineFeeds) (rows.map bothFed) (lineFeeds stdoutPath)
        (lineFeeds stderrPath) := by
  have inner : (words.map (string 4)).map Piece.feeds = (words.map lineFeeds).map (string 4) := by
    rw [List.map_map, List.map_map]
    rfl
  simp only [plistPieces, List.map_append, opening_feeds, inner, environment_feeds, closing_feeds]
  rfl

/-! Characters. -/

structure AllXml (words : List Text) (rows : List (Text × Text)) (stdoutPath stderrPath : Text) :
    Prop where
  words : ∀ word ∈ words, word.all isXmlChar = true
  names : ∀ row ∈ rows, row.1.all isXmlChar = true
  values : ∀ row ∈ rows, row.2.all isXmlChar = true
  stdoutPath : stdoutPath.all isXmlChar = true
  stderrPath : stderrPath.all isXmlChar = true

theorem rowPieces_chars (indent : Nat) (name value : Text) :
    (rowPieces indent name value).all Piece.hasXmlChars =
      (name.all isXmlChar && value.all isXmlChar) := by
  simp [rowPieces, string, Piece.hasXmlChars]

theorem opening_chars : openingPieces.all Piece.hasXmlChars = true := by
  have head : headPieces.all Piece.hasXmlChars = true := rfl
  have label : "Label".toList.all isXmlChar = true ∧
      defaultLaunchdLabel.toList.all isXmlChar = true := by decide
  have arguments :
      [key 2 "ProgramArguments", tag 2 "array"].all Piece.hasXmlChars = true := by decide
  rw [openingPieces, List.all_append, List.all_append, head, rowPieces_chars, label.1,
    label.2, arguments]
  rfl

theorem environment_chars (rows : List (Text × Text)) :
    (environmentPieces rows).all Piece.hasXmlChars = true ↔
      ∀ row ∈ rows, row.1.all isXmlChar = true ∧ row.2.all isXmlChar = true := by
  unfold environmentPieces
  by_cases empty : rows = []
  · simp [empty]
  · have begins :
        [key 2 "EnvironmentVariables", tag 2 "dict"].all Piece.hasXmlChars = true := by decide
    have ends : [tag 2 "/dict"].all Piece.hasXmlChars = true := rfl
    rw [if_neg empty, List.all_append, List.all_append, begins, ends, Bool.true_and, Bool.and_true,
      List.all_eq_true]
    constructor
    · intro all row member
      have both := List.all_eq_true.mpr fun piece inside =>
        all piece (List.mem_flatMap.mpr ⟨row, member, inside⟩)
      rwa [rowPieces_chars, Bool.and_eq_true] at both
    · intro each piece member
      obtain ⟨row, listed, inside⟩ := List.mem_flatMap.mp member
      have both := rowPieces_chars 4 row.1 row.2
      rw [(each row listed).1, (each row listed).2] at both
      exact List.all_eq_true.mp both piece inside

theorem closing_chars (stdoutPath stderrPath : Text) :
    (closingPieces stdoutPath stderrPath).all Piece.hasXmlChars =
      (stdoutPath.all isXmlChar && stderrPath.all isXmlChar) := by
  have switches : switchPieces.all Piece.hasXmlChars = true := by decide
  have ending : lastPieces.all Piece.hasXmlChars = true := by decide
  have output : "StandardOutPath".toList.all isXmlChar = true := by decide
  have failure : "StandardErrorPath".toList.all isXmlChar = true := by decide
  simp only [closingPieces, List.all_append, switches, ending, rowPieces_chars, output, failure,
    Bool.true_and, Bool.and_true]

theorem plistPieces_chars (words : List Text) (rows : List (Text × Text))
    (stdoutPath stderrPath : Text) :
    (plistPieces words rows stdoutPath stderrPath).all Piece.hasXmlChars = true ↔
      AllXml words rows stdoutPath stderrPath := by
  have closes : [tag 2 "/array"].all Piece.hasXmlChars = true := rfl
  have inner : (words.map (string 4)).all Piece.hasXmlChars =
      words.all fun word => word.all isXmlChar := by
    rw [List.all_map]
    rfl
  rw [plistPieces, List.all_append, List.all_append, List.all_append, List.all_append,
    opening_chars, inner, closes, closing_chars]
  simp only [Bool.and_eq_true, environment_chars]
  constructor
  · rintro ⟨⟨⟨⟨_, given⟩, _⟩, each⟩, output, failure⟩
    exact ⟨List.all_eq_true.mp given, fun row member => (each row member).1,
      fun row member => (each row member).2, output, failure⟩
  · intro all
    exact ⟨⟨⟨⟨trivial, List.all_eq_true.mpr all.words⟩, trivial⟩,
      fun row member => ⟨all.names row member, all.values row member⟩⟩,
      all.stdoutPath, all.stderrPath⟩

theorem read_plist (words : List Text) (rows : List (Text × Text)) (stdoutPath stderrPath : Text) :
    read ((plistPieces words rows stdoutPath stderrPath).flatMap Piece.written) =
      if (plistPieces words rows stdoutPath stderrPath).all Piece.hasXmlChars then
        some (.dict (plistRows (words.map lineFeeds) (rows.map bothFed) (lineFeeds stdoutPath)
          (lineFeeds stderrPath)))
      else none := by
  have acts := plistPieces_act (words.map lineFeeds) (rows.map bothFed) (lineFeeds stdoutPath)
    (lineFeeds stderrPath)
  rw [← plistPieces_feeds] at acts
  exact read_pieces (plistPieces_sound words rows stdoutPath stderrPath) acts

/-! What is written. -/

def stdoutPath (logDir : String) : String := joinAll logDir ["missive-gateway.stdout.log"]

def stderrPath (logDir : String) : String := joinAll logDir ["missive-gateway.stderr.log"]

theorem headTexts : ["<?xml version=\"1.0\" encoding=\"UTF-8\"?>\n",
    "<!DOCTYPE plist PUBLIC \"-//Apple//DTD PLIST 1.0//EN\" \"http://www.apple.com/DTDs/PropertyList-1.0.dtd\">\n",
    "<plist version=\"1.0\">\n", "<dict>\n"].map String.toList =
      headPieces.map Piece.written := by
  have lines : ["<?xml version=\"1.0\" encoding=\"UTF-8\"?>\n",
      "<!DOCTYPE plist PUBLIC \"-//Apple//DTD PLIST 1.0//EN\" \"http://www.apple.com/DTDs/PropertyList-1.0.dtd\">\n",
      "<plist version=\"1.0\">\n", "<dict>\n"] = headTags.map fun text => "<" ++ text ++ ">\n" := by
    decide
  have each (text : String) : ("<" ++ text ++ ">\n").toList = (tag 0 text).written := by
    simp [tag, Piece.written, markup]
  rw [lines, headPieces, List.map_map, List.map_map]
  exact List.map_congr_left fun text _ => each text

theorem argumentsTexts : ["  <key>ProgramArguments</key>\n", "  <array>\n"].map String.toList =
    [key 2 "ProgramArguments", tag 2 "array"].map Piece.written := by
  decide

theorem environmentTagTexts : ["  <key>EnvironmentVariables</key>\n", "  <dict>\n"].map
    String.toList = [key 2 "EnvironmentVariables", tag 2 "dict"].map Piece.written := by
  decide

theorem closingTagTexts : ["  </array>\n"].map String.toList = [tag 2 "/array"].map Piece.written ∧
    ["  </dict>\n"].map String.toList = [tag 2 "/dict"].map Piece.written ∧
    ["</dict>\n", "</plist>\n"].map String.toList = lastPieces.map Piece.written := by
  decide

theorem switchTexts : ["  <key>KeepAlive</key>\n", "  <true/>\n", "  <key>RunAtLoad</key>\n",
    "  <true/>\n"].map String.toList = switchPieces.map Piece.written := by
  decide

def Writes (texts : List String) (pieces : List Piece) : Prop :=
  texts.flatMap String.toList = pieces.flatMap Piece.written

theorem writes_append {texts others : List String} {pieces rest : List Piece}
    (first : Writes texts pieces) (last : Writes others rest) :
    Writes (texts ++ others) (pieces ++ rest) := by
  unfold Writes at first last ⊢
  rw [List.flatMap_append, List.flatMap_append, first, last]

theorem writes_each {texts : List String} {pieces : List Piece}
    (same : texts.map String.toList = pieces.map Piece.written) : Writes texts pieces := by
  rw [Writes, List.flatMap_def, List.flatMap_def, same]

theorem writes_cons {text : String} {texts : List String} {pieces rest : List Piece}
    (first : text.toList = pieces.flatMap Piece.written) (last : Writes texts rest) :
    Writes (text :: texts) (pieces ++ rest) := by
  unfold Writes at last ⊢
  rw [List.flatMap_cons, List.flatMap_append, first, last]

theorem writes_words (words : List String) :
    Writes (words.map (plistString 2)) ((words.map String.toList).map (string 4)) := by
  induction words with
  | nil => rfl
  | cons word rest ih =>
      have here : (plistString 2 word).toList = [string 4 word.toList].flatMap Piece.written := by
        rw [List.flatMap_singleton, plistString_text]
        rfl
      simp only [List.map_cons]
      exact writes_cons here ih

theorem row_written (indent : Nat) (name value : String) :
    (plistKeyString indent name value).toList =
      (rowPieces (indent * 2) name.toList value.toList).flatMap Piece.written := by
  rw [plistKeyString_text, rowPieces, List.flatMap_cons, List.flatMap_singleton]
  rfl

theorem writes_rows (rows : List (String × String)) :
    Writes (rows.map fun row => plistKeyString 2 row.1 row.2)
      ((rows.map fun row => (row.1.toList, row.2.toList)).flatMap fun row =>
        rowPieces 4 row.1 row.2) := by
  induction rows with
  | nil => rfl
  | cons row rest ih =>
      simp only [List.map_cons, List.flatMap_cons]
      exact writes_cons (row_written 2 row.1 row.2) ih

theorem writes_environment (environment : Environment) :
    Writes (if environment.rows = [] then []
      else ["  <key>EnvironmentVariables</key>\n", "  <dict>\n"] ++
        environment.rows.map (fun row => plistKeyString 2 row.1 row.2) ++ ["  </dict>\n"])
      (environmentPieces (environmentTexts environment)) := by
  unfold environmentPieces environmentTexts
  by_cases empty : environment.rows = []
  · rw [if_pos empty, if_pos (by rw [empty]; rfl)]
    rfl
  · rw [if_neg empty, if_neg (by simpa using empty)]
    exact writes_append (writes_append (writes_each environmentTagTexts) (writes_rows _))
      (writes_each closingTagTexts.2.1)

theorem renderLaunchdPlist_lines {executable : PathBytes} {arguments : List String}
    {environment : Environment} {scope : GatewayServiceScope} {file : String}
    (made : renderLaunchdPlist executable arguments environment scope = .ok file) :
    ∃ logDir, launchdLogDir scope environment = .ok logDir ∧
      file.toList = (plistPieces ((display executable :: arguments).map String.toList)
        (environmentTexts environment) (stdoutPath logDir).toList
          (stderrPath logDir).toList).flatMap Piece.written := by
  unfold renderLaunchdPlist at made
  cases logs : launchdLogDir scope environment with
  | error error =>
      rw [logs] at made
      cases made
  | ok logDir =>
      rw [logs] at made
      cases made
      refine ⟨logDir, rfl, ?_⟩
      have first := writes_append (writes_each headTexts)
        (writes_cons (row_written 1 "Label" defaultLaunchdLabel) (writes_each argumentsTexts))
      have words := writes_words (display executable :: arguments)
      have closes := writes_each closingTagTexts.1
      have rows := writes_environment environment
      have last := writes_append (writes_each switchTexts)
        (writes_cons (row_written 1 "StandardOutPath" (stdoutPath logDir))
          (writes_cons (row_written 1 "StandardErrorPath" (stderrPath logDir))
            (writes_each closingTagTexts.2.2)))
      have whole := writes_append (writes_append
        (writes_append (writes_append first words) closes) rows)
        last
      rw [String.toList_join]
      simp only [Writes, plistPieces, openingPieces, closingPieces, stdoutPath, stderrPath,
        List.map_cons, List.cons_append, List.nil_append, List.append_assoc] at whole ⊢
      exact whole

theorem join_chars {base name : Text} (first : base.all isXmlChar = true)
    (last : name.all isXmlChar = true) : (FilePaths.join base name).all isXmlChar = true := by
  have slash : ('/' :: name).all isXmlChar = true := by rw [List.all_cons, last]; rfl
  unfold FilePaths.join
  by_cases absolute : FilePaths.isAbsolute name = true
  · rwa [if_pos absolute]
  · rw [if_neg absolute]
    by_cases ends : base.getLast?.all (· == '/') = true
    · rw [if_pos ends, List.all_append, first, last, Bool.and_self]
    · rw [if_neg ends, List.all_append, first, slash, Bool.and_self]

theorem joinAll_chars {base : String} {names : List String}
    (first : base.toList.all isXmlChar = true)
    (each : ∀ name ∈ names, name.toList.all isXmlChar = true) :
    (joinAll base names).toList.all isXmlChar = true := by
  unfold joinAll
  rw [String.toList_ofList]
  generalize base.toList = path at first
  induction names generalizing path with
  | nil => exact first
  | cons name rest ih =>
      have here := join_chars first (each name List.mem_cons_self)
      exact ih (fun other member => each other (List.mem_cons_of_mem _ member)) _ here

theorem logs_chars {scope : GatewayServiceScope} {environment : Environment} {logDir : String}
    (found : launchdLogDir scope environment = .ok logDir)
    (values : ∀ row ∈ environment.rows, row.2.toList.all isXmlChar = true) :
    logDir.toList.all isXmlChar = true := by
  cases scope with
  | system =>
      cases found
      decide
  | user =>
      cases home : environment.get "HOME" with
      | none =>
          simp only [launchdLogDir, launchdHome, home] at found
          cases found
      | some value =>
          simp only [launchdLogDir, launchdHome, home] at found
          cases found
          obtain ⟨before, after, whole, _⟩ := List.lookup_eq_some_iff.mp home
          have member : ("HOME", value) ∈ environment.rows := by simp [whole]
          exact joinAll_chars (values _ member) (by decide)

end Missive.ServicePlists
