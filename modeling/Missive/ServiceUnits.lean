import Missive.ServiceFiles
import Missive.SystemdUnits

/-! The unit that an install writes, line by line, and what is read from it. -/
namespace Missive.ServiceUnits

open RustText (Text)
open TextReplacement (replace replace_single)
open SystemdUnits
open ServiceFiles

/-! The lines of a unit. -/

theorem systemdQuote_text (value : String) : (systemdQuote value).toList = quoted value.toList := by
  have each (c : Char) : ((if c = '\\' then ['\\', '\\'] else [c]).flatMap fun d =>
      if d = '"' then ['\\', '"'] else [d]) = SystemdUnits.guard c := by
    by_cases backslash : c = '\\'
    · subst backslash
      rfl
    · by_cases mark : c = '"'
      · subst mark
        rfl
      · simp [SystemdUnits.guard, backslash, mark]
  have inner : replace ['"'] ['\\', '"'] (replace ['\\'] ['\\', '\\'] value.toList) =
      guarded value.toList := by
    rw [replace_single, replace_single, List.flatMap_assoc, guarded]
    exact congrArg (value.toList.flatMap ·) (funext each)
  simp [systemdQuote, inner, quoted]

def linesBefore : List Text :=
  ["[Unit]", "Description=missive gateway daemon",
    "Documentation=https://github.com/earendil-works/missive", "After=network-online.target",
    "Wants=network-online.target", "", "[Service]", "Type=simple"].map String.toList

def linesAfter (scope : GatewayServiceScope) : List Text :=
  ["Restart=on-failure", "RestartSec=5s", "", "[Install]", "WantedBy=" ++ wantedBy scope].map
    String.toList

def assignment (key : String) (value : Text) : Text := key.toList ++ '=' :: value

def commandLine (words : List Text) : Text :=
  assignment "ExecStart" ([' '].intercalate (words.map quoted))

def environmentLine (row : Text × Text) : Text :=
  assignment "Environment" (quoted (row.1 ++ '=' :: row.2))

def unitLines (words : List Text) (rows : List (Text × Text)) (scope : GatewayServiceScope) :
    List Text :=
  linesBefore ++ ([commandLine words] ++ rows.map environmentLine) ++ linesAfter scope

theorem quoted_words (words : List String) :
    (" ".intercalate (words.map systemdQuote)).toList =
      [' '].intercalate ((words.map String.toList).map quoted) := by
  have each : (words.map systemdQuote).map String.toList =
      (words.map String.toList).map quoted := by
    rw [List.map_map, List.map_map]
    exact List.map_congr_left fun word _ => systemdQuote_text word
  rw [String.toList_intercalate, each]
  rfl

theorem assignment_text {start key : String} (same : start = key ++ "=") (value : String) :
    (start ++ value ++ "\n").toList = assignment key value.toList ++ ['\n'] := by
  subst same
  simp [assignment]

theorem commandLine_text (words : List String) :
    ("ExecStart=" ++ " ".intercalate (words.map systemdQuote) ++ "\n").toList =
      commandLine (words.map String.toList) ++ ['\n'] := by
  have same : "ExecStart=" = "ExecStart" ++ "=" := by decide
  have line := assignment_text same (" ".intercalate (words.map systemdQuote))
  rw [quoted_words] at line
  exact line

theorem environmentLine_text (row : String × String) :
    ("Environment=" ++ systemdQuote (row.1 ++ "=" ++ row.2) ++ "\n").toList =
      environmentLine (row.1.toList, row.2.toList) ++ ['\n'] := by
  have same : "Environment=" = "Environment" ++ "=" := by decide
  have line := assignment_text same (systemdQuote (row.1 ++ "=" ++ row.2))
  have inner : (row.1 ++ "=" ++ row.2).toList = row.1.toList ++ '=' :: row.2.toList := by
    simp
  rw [systemdQuote_text, inner] at line
  exact line

def firstTexts : List String :=
  ["[Unit]\n", "Description=missive gateway daemon\n",
    "Documentation=https://github.com/earendil-works/missive\n",
    "After=network-online.target\n", "Wants=network-online.target\n\n",
    "[Service]\n", "Type=simple\n"]

theorem firstTexts_lines : firstTexts.flatMap String.toList = written linesBefore := by
  decide +kernel

def lastTexts (scope : GatewayServiceScope) : List String :=
  ["Restart=on-failure\n", "RestartSec=5s\n\n", "[Install]\n",
    "WantedBy=" ++ wantedBy scope ++ "\n"]

theorem lastTexts_lines (scope : GatewayServiceScope) :
    (lastTexts scope).flatMap String.toList = written (linesAfter scope) := by
  cases scope with
  | user => decide
  | system => decide

theorem written_append (first last : List Text) :
    written (first ++ last) = written first ++ written last :=
  List.flatMap_append

theorem renderSystemdUnit_lines (executable : PathBytes) (arguments : List String)
    (environment : Environment) (scope : GatewayServiceScope) :
    (renderSystemdUnit executable arguments environment scope).toList =
      written (unitLines ((display executable :: arguments).map String.toList)
        (environmentTexts environment) scope) := by
  have rows : (environment.rows.map fun row =>
      "Environment=" ++ systemdQuote (row.1 ++ "=" ++ row.2) ++ "\n").flatMap String.toList =
        written ((environmentTexts environment).map environmentLine) := by
    rw [written, environmentTexts, List.map_map, List.flatMap_map, List.flatMap_map,
      List.flatMap_def, List.flatMap_def]
    exact congrArg List.flatten (List.map_congr_left fun row _ => environmentLine_text row)
  have whole : renderSystemdUnit executable arguments environment scope = String.join (firstTexts ++
      ["ExecStart=" ++ " ".intercalate ((display executable :: arguments).map systemdQuote) ++
        "\n"] ++
      environment.rows.map (fun row =>
        "Environment=" ++ systemdQuote (row.1 ++ "=" ++ row.2) ++ "\n") ++ lastTexts scope) := rfl
  have single (line : Text) : line ++ ['\n'] = written [line] := by simp [written]
  rw [whole, String.toList_join, List.flatMap_append, List.flatMap_append, List.flatMap_append,
    List.flatMap_singleton, firstTexts_lines, rows, lastTexts_lines, commandLine_text, single,
    unitLines, written_append, written_append, written_append]
  simp only [List.append_assoc]

/-! What a unit is read as. -/

def directive (row : String × String × String) : Directive :=
  ⟨row.1.toList, row.2.1.toList, row.2.2.toList⟩

def directivesBefore : List Directive :=
  [("Unit", "Description", "missive gateway daemon"),
    ("Unit", "Documentation", "https://github.com/earendil-works/missive"),
    ("Unit", "After", "network-online.target"), ("Unit", "Wants", "network-online.target"),
    ("Service", "Type", "simple")].map directive

def directivesAfter (scope : GatewayServiceScope) : List Directive :=
  [("Service", "Restart", "on-failure"), ("Service", "RestartSec", "5s"),
    ("Install", "WantedBy", wantedBy scope)].map directive

def commandDirective (words : List Text) : Directive :=
  ⟨"Service".toList, "ExecStart".toList, [' '].intercalate (words.map quoted)⟩

def environmentDirective (row : Text × Text) : Directive :=
  ⟨"Service".toList, "Environment".toList, quoted (row.1 ++ '=' :: row.2)⟩

def unitDirectives (words : List Text) (rows : List (Text × Text)) (scope : GatewayServiceScope) :
    List Directive :=
  directivesBefore ++ ([commandDirective words] ++ rows.map environmentDirective) ++
    directivesAfter scope

theorem directives_before : directives [] linesBefore = directivesBefore ∧
    headingAfter [] linesBefore = "Service".toList := by
  decide

theorem directives_after (scope : GatewayServiceScope) :
    directives "Service".toList (linesAfter scope ++ [[]]) = directivesAfter scope := by
  cases scope with
  | user => decide
  | system => decide

theorem commandLine_entry (words : List Text) : entry (commandLine words) =
    .assignment "ExecStart".toList ([' '].intercalate (words.map quoted)) :=
  entry_assignment (by decide) (by decide) (by decide) (solid_words words)

theorem environmentLine_entry (row : Text × Text) : entry (environmentLine row) =
    .assignment "Environment".toList (quoted (row.1 ++ '=' :: row.2)) :=
  entry_assignment (by decide) (by decide) (by decide) (solid_quoted _)

theorem directives_unit (words : List Text) (rows : List (Text × Text))
    (scope : GatewayServiceScope) :
    directives [] (unitLines words rows scope ++ [[]]) = unitDirectives words rows scope := by
  obtain ⟨first, opened⟩ := directives_before
  obtain ⟨ran, runs⟩ := directives_assignments "Service".toList [words]
    fun words _ => commandLine_entry words
  obtain ⟨given, stays⟩ := directives_assignments "Service".toList rows
    fun row _ => environmentLine_entry row
  have apart : unitLines words rows scope ++ [[]] = linesBefore ++ ([words].map commandLine ++
      (rows.map environmentLine ++ (linesAfter scope ++ [[]]))) := by
    simp [unitLines]
  rw [apart, directives_append, first, opened, directives_append, ran, runs, directives_append,
    given, stays, directives_after, unitDirectives, List.append_assoc, List.append_assoc]
  rfl

theorem isComment_filled (c : Char) (rest : Text) (plain : isSpace c = false ∧ c ≠ '#' ∧ c ≠ ';') :
    isComment (c :: rest) = false := by
  simp [isComment, plain.1, plain.2.1, plain.2.2]

theorem linesBefore_plain : ∀ line ∈ linesBefore,
    isComment line = false ∧ line.all isInner = true ∧ '\\' ∉ line := by
  decide

theorem linesAfter_plain (scope : GatewayServiceScope) : ∀ line ∈ linesAfter scope,
    isComment line = false ∧ line.all isInner = true ∧ '\\' ∉ line := by
  cases scope with
  | user => decide
  | system => decide

theorem unitLines_paired (words : List Text) (rows : List (Text × Text))
    (scope : GatewayServiceScope) : ∀ line ∈ unitLines words rows scope, Paired line := by
  intro line member
  rcases List.mem_append.mp member with front | last
  · rcases List.mem_append.mp front with first | middle
    · exact paired_plain (linesBefore_plain line first).2.2
    · rcases List.mem_cons.mp middle with rfl | given
      · exact paired_append (paired_plain (by decide)) (.plain (by decide) (paired_words words))
      · obtain ⟨row, _, rfl⟩ := List.mem_map.mp given
        exact paired_append (paired_plain (by decide)) (.plain (by decide) (paired_quoted _))
  · exact paired_plain (linesAfter_plain scope line last).2.2

theorem unitLines_open (words : List Text) (rows : List (Text × Text))
    (scope : GatewayServiceScope) :
    ∀ line ∈ unitLines words rows scope, isComment line = false := by
  intro line member
  rcases List.mem_append.mp member with front | last
  · rcases List.mem_append.mp front with first | middle
    · exact (linesBefore_plain line first).1
    · rcases List.mem_cons.mp middle with rfl | given
      · have start : "ExecStart".toList = 'E' :: "xecStart".toList := by decide
        rw [commandLine, assignment, start]
        exact isComment_filled 'E' _ (by decide)
      · obtain ⟨row, _, rfl⟩ := List.mem_map.mp given
        have start : "Environment".toList = 'E' :: "nvironment".toList := by decide
        rw [environmentLine, assignment, start]
        exact isComment_filled 'E' _ (by decide)
  · exact (linesAfter_plain scope line last).1

/-- The texts of a unit that hold no line end. -/
structure Whole (host : Host) (words : List Text) (rows : List (Text × Text)) : Prop where
  words : ∀ word ∈ words, Within (fun c => host.ends c = false) word
  names : ∀ row ∈ rows, Within (fun c => host.ends c = false) row.1
  values : ∀ row ∈ rows, Within (fun c => host.ends c = false) row.2

theorem unitLines_whole {host : Host} {words : List Text} {rows : List (Text × Text)}
    (whole : Whole host words rows) (scope : GatewayServiceScope) :
    ∀ line ∈ unitLines words rows scope, ∀ c ∈ line, host.ends c = false := by
  have marks (c : Char) (escapes : c = '\\' ∨ c = '"') := ends_apart host escapes
  have plain {text : Text} (inner : text.all isInner = true) :
      Within (fun c => host.ends c = false) text :=
    fun c member => ends_inner host (List.all_eq_true.mp inner c member)
  have sign {c : Char} (inner : isInner c = true) := ends_inner host inner
  have key {name : Text} (inner : name.all isInner = true) {value : Text}
      (within : Within (fun c => host.ends c = false) value) :
      Within (fun c => host.ends c = false) (name ++ '=' :: value) :=
    within_append (plain inner) (within_cons (sign (by decide)) within)
  intro line member
  rcases List.mem_append.mp member with front | last
  · rcases List.mem_append.mp front with first | middle
    · exact plain (linesBefore_plain line first).2.1
    · rcases List.mem_cons.mp middle with rfl | given
      · exact key (by decide) (within_words marks (sign (by decide)) whole.words)
      · obtain ⟨row, listed, rfl⟩ := List.mem_map.mp given
        have value : Within (fun c => host.ends c = false) (row.1 ++ '=' :: row.2) :=
          within_append (whole.names row listed)
            (within_cons (sign (by decide)) (whole.values row listed))
        exact key (by decide) (within_quoted marks value)
  · exact plain (linesAfter_plain scope line last).2.1

/-! A unit without line ends in its texts. -/

theorem lines_unit {host : Host} {words : List Text} {rows : List (Text × Text)}
    (whole : Whole host words rows) (scope : GatewayServiceScope) :
    directives [] (logical none (lines host (written (unitLines words rows scope)))) =
      unitDirectives words rows scope := by
  have paired : ∀ line ∈ unitLines words rows scope ++ [[]], Paired line := by
    intro line member
    rcases List.mem_append.mp member with listed | last
    · exact unitLines_paired words rows scope line listed
    · rw [List.mem_singleton.mp last]
      exact .nil
  have kept : ∀ line ∈ unitLines words rows scope ++ [[]], (!isComment line) = true := by
    intro line member
    rcases List.mem_append.mp member with listed | last
    · rw [unitLines_open words rows scope line listed]
      rfl
    · rw [List.mem_singleton.mp last]
      rfl
  rw [lines_written (unitLines_whole whole scope), logical_paired paired,
    List.filter_eq_self.mpr kept, directives_unit]

theorem unitDirectives_filled {executable : Text} {arguments : List Text}
    {rows : List (Text × Text)} {scope : GatewayServiceScope} :
    ∀ directive ∈ unitDirectives (executable :: arguments) rows scope, directive.value ≠ [] := by
  have first : ∀ directive ∈ directivesBefore, directive.value ≠ [] := by decide
  have last : ∀ directive ∈ directivesAfter scope, directive.value ≠ [] := by
    cases scope with
    | user => decide
    | system => decide
  intro directive member
  rcases List.mem_append.mp member with front | after
  · rcases List.mem_append.mp front with before | middle
    · exact first directive before
    · rcases List.mem_cons.mp middle with rfl | given
      · obtain ⟨more, shape⟩ := words_filled executable arguments
        have filled : (commandDirective (executable :: arguments)).value = '"' :: more := shape
        rw [filled]
        exact List.cons_ne_nil _ _
      · obtain ⟨row, _, rfl⟩ := List.mem_map.mp given
        exact List.cons_ne_nil _ _
  · exact last directive after

theorem isNamed_made (heading key given name value : Text) :
    Directive.isNamed heading key ⟨given, name, value⟩ =
      (decide (given = heading) && decide (name = key)) :=
  rfl

theorem assigned_environment (executable : Text) (arguments : List Text)
    (rows : List (Text × Text)) (scope : GatewayServiceScope) :
    assigned "Service".toList "Environment".toList
        (unitDirectives (executable :: arguments) rows scope) =
      rows.map fun row => quoted (row.1 ++ '=' :: row.2) := by
  have first : directivesBefore.filter
      (Directive.isNamed "Service".toList "Environment".toList) = [] := by
    decide
  have last : (directivesAfter scope).filter
      (Directive.isNamed "Service".toList "Environment".toList) = [] := by
    cases scope with
    | user => decide
    | system => decide
  have other : Directive.isNamed "Service".toList "Environment".toList
      (commandDirective (executable :: arguments)) = false :=
    (isNamed_made _ _ _ _ _).trans (by decide)
  have named : (rows.map environmentDirective).filter
      (Directive.isNamed "Service".toList "Environment".toList) =
        rows.map environmentDirective := by
    rw [List.filter_eq_self]
    intro directive member
    obtain ⟨row, _, rfl⟩ := List.mem_map.mp member
    exact (isNamed_made _ _ _ _ _).trans (by decide)
  have listed : (unitDirectives (executable :: arguments) rows scope).filter
      (Directive.isNamed "Service".toList "Environment".toList) =
        rows.map environmentDirective := by
    simp only [unitDirectives, List.filter_append, List.filter_singleton, first, last, named, other,
      cond_false, List.nil_append, List.append_nil]
  have values : (rows.map environmentDirective).map Directive.value =
      rows.map fun row => quoted (row.1 ++ '=' :: row.2) := by
    rw [List.map_map]
    exact List.map_congr_left fun row _ => rfl
  exact (assigned_filled unitDirectives_filled).trans ((congrArg _ listed).trans values)

theorem assigned_command (executable : Text) (arguments : List Text)
    (rows : List (Text × Text)) (scope : GatewayServiceScope) :
    assigned "Service".toList "ExecStart".toList
        (unitDirectives (executable :: arguments) rows scope) =
      [[' '].intercalate ((executable :: arguments).map quoted)] := by
  have first : directivesBefore.filter
      (Directive.isNamed "Service".toList "ExecStart".toList) = [] := by
    decide
  have last : (directivesAfter scope).filter
      (Directive.isNamed "Service".toList "ExecStart".toList) = [] := by
    cases scope with
    | user => decide
    | system => decide
  have named : Directive.isNamed "Service".toList "ExecStart".toList
      (commandDirective (executable :: arguments)) = true :=
    (isNamed_made _ _ _ _ _).trans (by decide)
  have others : (rows.map environmentDirective).filter
      (Directive.isNamed "Service".toList "ExecStart".toList) = [] := by
    rw [List.filter_eq_nil_iff]
    intro directive member
    obtain ⟨row, _, rfl⟩ := List.mem_map.mp member
    have other : Directive.isNamed "Service".toList "ExecStart".toList
        (environmentDirective row) = false := (isNamed_made _ _ _ _ _).trans (by decide)
    exact fun same => Bool.false_ne_true (other.symm.trans same)
  have listed : (unitDirectives (executable :: arguments) rows scope).filter
      (Directive.isNamed "Service".toList "ExecStart".toList) =
        [commandDirective (executable :: arguments)] := by
    simp only [unitDirectives, List.filter_append, List.filter_singleton, first, last, named,
      others, cond_true, List.nil_append, List.append_nil]
  exact (assigned_filled unitDirectives_filled).trans (congrArg _ listed)

theorem environment_unit (host : Host) (executable : Text) (arguments : List Text)
    {rows : List (Text × Text)} (names : ∀ row ∈ rows, '=' ∉ row.1 ∧ '%' ∉ row.1)
    (scope : GatewayServiceScope) :
    SystemdUnits.environment host (unitDirectives (executable :: arguments) rows scope) =
      some (rows.map fun row => (row.1, expand host.specifier row.2)) := by
  have listed : (rows.map fun row => quoted (row.1 ++ '=' :: row.2)).mapM items =
      some (rows.map fun row => [asQuoted (row.1 ++ '=' :: row.2)]) := by
    rw [List.mapM_map]
    apply mapM_made
    intro row _
    simpa using items_quoted [row.1 ++ '=' :: row.2]
  have flat : (rows.map fun row => [asQuoted (row.1 ++ '=' :: row.2)]).flatten =
      rows.map fun row => asQuoted (row.1 ++ '=' :: row.2) := by
    rw [← List.flatMap_def, List.map_eq_flatMap]
  have each : (rows.map fun row => asQuoted (row.1 ++ '=' :: row.2)).mapM
      (fun item => splitAssignment (expand host.specifier item.text)) =
        some (rows.map fun row => (row.1, expand host.specifier row.2)) := by
    rw [List.mapM_map]
    apply mapM_made
    intro row member
    obtain ⟨sign, percent⟩ := names row member
    have kept : expand host.specifier (row.1 ++ '=' :: row.2) =
        row.1 ++ '=' :: expand host.specifier row.2 := by
      rw [expand_append percent]
      rfl
    simp only [Function.comp, asQuoted, kept]
    exact splitAssignment_sign sign
  rw [SystemdUnits.environment, assigned_environment, listed]
  simp only [Option.bind_eq_bind, Option.bind_some, flat, each]

def runsAs (host : Host) (rows : List (Text × Text)) (executable : Text) (arguments : List Text) :
    Command :=
  ⟨expand host.specifier executable,
    (arguments.map (expand host.specifier)).flatMap (substitute (known host.manager rows))⟩

theorem command_words (host : Host) (rows : List (Text × Text)) {executable : Text}
    (arguments : List Text) (start : executable.head? = some '/') :
    SystemdUnits.command host.specifier (known host.manager rows)
        ((executable :: arguments).map asQuoted) =
      some (runsAs host rows executable arguments) := by
  have plain : executable.takeWhile isMark = [] ∧ executable.dropWhile isMark = executable := by
    cases executable with
    | nil => cases start
    | cons c rest =>
        cases start
        exact ⟨rfl, rfl⟩
  have words : (arguments.map asQuoted).map (fun item => expand host.specifier item.text) =
      arguments.map (expand host.specifier) := by
    rw [List.map_map]
    rfl
  simp only [List.map_cons, SystemdUnits.command, asQuoted, plain, List.not_mem_nil,
    if_false, runsAs]
  rw [← words]

theorem read_unit (host : Host) {executable : Text} {arguments : List Text}
    {rows : List (Text × Text)} (scope : GatewayServiceScope)
    (whole : Whole host (executable :: arguments) rows) (start : executable.head? = some '/')
    (names : ∀ row ∈ rows, '=' ∉ row.1 ∧ '%' ∉ row.1) :
    SystemdUnits.read host (written (unitLines (executable :: arguments) rows scope)) =
      some ⟨(unitDirectives (executable :: arguments) rows scope).map
          (fun directive => (directive.heading, directive.key)),
        rows.map fun row => (row.1, expand host.specifier row.2),
        [runsAs host (rows.map fun row =>
          (row.1, expand host.specifier row.2)) executable arguments]⟩ := by
  have listed : [[' '].intercalate ((executable :: arguments).map quoted)].mapM items =
      some [(executable :: arguments).map asQuoted] := by
    rw [List.mapM_cons, items_quoted]
    rfl
  have uncut : ((executable :: arguments).map asQuoted).splitOnP isSeparator =
      [(executable :: arguments).map asQuoted] := by
    apply List.splitOnP_eq_singleton
    intro item member
    obtain ⟨word, _, rfl⟩ := List.mem_map.mp member
    rfl
  have single : [(executable :: arguments).map asQuoted].mapM (SystemdUnits.command host.specifier
      (known host.manager (rows.map fun row => (row.1, expand host.specifier row.2)))) =
        some [runsAs host (rows.map fun row => (row.1, expand host.specifier row.2)) executable
          arguments] := by
    rw [List.mapM_cons, command_words host _ arguments start]
    rfl
  rw [SystemdUnits.read, lines_unit whole scope]
  simp only [environment_unit host executable arguments names scope, assigned_command, listed,
    Option.bind_eq_bind, Option.bind_some, List.flatMap_singleton, uncut, single, Option.pure_def]

end Missive.ServiceUnits
