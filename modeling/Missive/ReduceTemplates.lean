import Missive.Core
import Missive.JsonRedaction
import Missive.TextReplacement

/-! The templates of a reduction, as `render_template` fills them: one replacement in the whole text
after the other. What an earlier replacement puts in is searched by the later ones, so that the
output of a member can be expanded in its turn. -/
namespace Missive.ReduceTemplates

open RustText Missive.Core TextReplacement

inductive ReduceStrategy where
  | summarise
  | vote
  | merge
  | rank
  | custom
  deriving DecidableEq

def ReduceStrategy.asStr : ReduceStrategy → String
  | .summarise => "summarise"
  | .vote => "vote"
  | .merge => "merge"
  | .rank => "rank"
  | .custom => "custom"

structure ReduceOperation where
  groupName : GroupName
  contextId : ContextId

structure ReduceTaskView where
  taskId : String

structure ReduceSourceArtifactView where
  artifactId : String

structure ReduceInputView where
  agent : String
  rank : String
  status : String
  task : Option ReduceTaskView
  text : Option String
  messageCount : Nat
  artifactCount : Nat
  artifacts : List ReduceSourceArtifactView

def gatheredInputs (provenance : List ReduceInputView) : List ReduceInputView :=
  provenance.filter fun input => input.status == "gathered"

def inputHeading (input : ReduceInputView) : String :=
  s!"### {input.rank} ({input.agent})\n- status: {input.status}\n- task: " ++
    (input.task.map ReduceTaskView.taskId).getD "missing" ++
    s!"\n- messages: {input.messageCount}\n- artifacts: {input.artifactCount}"

def inputLines (input : ReduceInputView) : List String :=
  match input.text with
  | some text => [inputHeading input, "\n" ++ text]
  | none =>
      if input.artifacts.isEmpty then [inputHeading input]
      else
        [inputHeading input, "\n[artifact references: " ++
          ", ".intercalate (input.artifacts.map ReduceSourceArtifactView.artifactId) ++ "]"]

def formatInputsMarkdown (provenance : List ReduceInputView) : String :=
  "\n\n".intercalate (provenance.flatMap inputLines)

section Render

variable (operation : ReduceOperation) (strategy : ReduceStrategy)
  (provenance : List ReduceInputView) (defaultReduction : String)

def replacements : List (String × String) :=
  [("\x7b\x7bgroup\x7d\x7d", operation.groupName.text),
    ("\x7b\x7bcontext_id\x7d\x7d", operation.contextId.text),
    ("\x7b\x7bstrategy\x7d\x7d", strategy.asStr),
    ("\x7b\x7binput_count\x7d\x7d", toString (gatheredInputs provenance).length),
    ("\x7b\x7binputs\x7d\x7d", formatInputsMarkdown provenance),
    ("\x7b\x7bdefault_reduction\x7d\x7d", defaultReduction)]

def replaceAll (replacements : List (String × String)) (text : Text) : Text :=
  replacements.foldl (fun text entry => replace entry.1.toList entry.2.toList text) text

def notBlank (rendered : Text) : Except MissiveError String :=
  if (JsonRedaction.trim rendered).isEmpty then
    .error (MissiveError.validation "rendered reduce template cannot be empty")
  else .ok (String.ofList rendered)

def renderTemplate (template : String) : Except MissiveError String :=
  notBlank (replaceAll (replacements operation strategy provenance defaultReduction)
    template.toList)

end Render

/-! The placeholders, apart from the order of their replacement. -/

inductive Placeholder where
  | group
  | contextId
  | strategy
  | inputCount
  | inputs
  | defaultReduction
  deriving DecidableEq

def placeholders : List Placeholder :=
  [.group, .contextId, .strategy, .inputCount, .inputs, .defaultReduction]

def Placeholder.mark : Placeholder → String
  | .group => "\x7b\x7bgroup\x7d\x7d"
  | .contextId => "\x7b\x7bcontext_id\x7d\x7d"
  | .strategy => "\x7b\x7bstrategy\x7d\x7d"
  | .inputCount => "\x7b\x7binput_count\x7d\x7d"
  | .inputs => "\x7b\x7binputs\x7d\x7d"
  | .defaultReduction => "\x7b\x7bdefault_reduction\x7d\x7d"

def Placeholder.needle (placeholder : Placeholder) : Text := placeholder.mark.toList

theorem needles_family : Family Placeholder.needle placeholders where
  complete hole := by cases hole <;> decide
  filled hole := by cases hole <;> decide
  separate first second := separated_sound (by cases first <;> cases second <;> decide)
  distinct first second found := by
    rw [← List.isPrefixOf_iff_prefix] at found
    revert found
    cases first <;> cases second <;> decide

section Meaning

variable (operation : ReduceOperation) (strategy : ReduceStrategy)
  (provenance : List ReduceInputView) (defaultReduction : String)

def Placeholder.given : Placeholder → String
  | .group => operation.groupName.text
  | .contextId => operation.contextId.text
  | .strategy => strategy.asStr
  | .inputCount => toString (gatheredInputs provenance).length
  | .inputs => formatInputsMarkdown provenance
  | .defaultReduction => defaultReduction

def Placeholder.value (placeholder : Placeholder) : Text :=
  (placeholder.given operation strategy provenance defaultReduction).toList

-- Every placeholder of the template replaced at once.
def simultaneous (template : Text) : Text :=
  fill (Placeholder.value operation strategy provenance defaultReduction)
    (tokens Placeholder.needle placeholders template)

/-- A template is rendered as it reads: all its placeholders are replaced at once, and each
replacement finds the placeholders of the template and no others. -/
structure RendersAtOnce (template : String) : Prop where
  rendered : renderTemplate operation strategy provenance defaultReduction template =
    notBlank (simultaneous operation strategy provenance defaultReduction template.toList)
  expanded : AtEach (replacements operation strategy provenance defaultReduction)
    fun earlier entry =>
      occurrences entry.1.toList (replaceAll earlier template.toList) =
        occurrences entry.1.toList template.toList

theorem replacements_entries :
    replacements operation strategy provenance defaultReduction =
      placeholders.map fun placeholder =>
        (placeholder.mark, placeholder.given operation strategy provenance defaultReduction) := rfl

theorem replaceAll_entries (order : List Placeholder) (template : Text) :
    replaceAll (order.map fun placeholder => (placeholder.mark,
        placeholder.given operation strategy provenance defaultReduction)) template =
      replaced Placeholder.needle
        (Placeholder.value operation strategy provenance defaultReduction) order template := by
  rw [replaceAll, List.foldl_map]
  rfl

theorem put_all : put Placeholder.needle
    (Placeholder.value operation strategy provenance defaultReduction) placeholders =
      Placeholder.value operation strategy provenance defaultReduction := by
  funext placeholder
  exact if_pos (needles_family.complete placeholder)

/-- A template is rendered at once just when no value spells a later placeholder, neither by itself
nor together with the text around it. -/
theorem rendersAtOnce_iff (template : String) :
    RendersAtOnce operation strategy provenance defaultReduction template ↔
      AtEach placeholders (Unspelled Placeholder.needle
        (Placeholder.value operation strategy provenance defaultReduction) placeholders
        template.toList) := by
  have distinct : placeholders.Nodup := by decide
  have ⟨counts, once⟩ := replaced_at_once needles_family
    (Placeholder.value operation strategy provenance defaultReduction) distinct template.toList
  rw [← counts]
  constructor
  · intro renders
    have expanded := renders.expanded
    rw [replacements_entries, atEach_map] at expanded
    simp only [replaceAll_entries] at expanded
    exact expanded
  · intro expanded
    constructor
    · rw [renderTemplate, replacements_entries, replaceAll_entries, once (counts.mp expanded),
        put_all]
      rfl
    · rw [replacements_entries, atEach_map]
      simp only [replaceAll_entries]
      exact expanded

end Meaning

/-! A member that wrote a placeholder. -/

theorem team_named : IdKind.groupName.reason "team" = none := by decide

theorem linked_context : IdKind.contextId.reason "ctx-1" = none := by decide

def team : ReduceOperation := ⟨⟨"team", team_named⟩, ⟨"ctx-1", linked_context⟩⟩

def quotingMember : ReduceInputView :=
  ⟨"alpha", "rank-0", "gathered", some ⟨"task-1"⟩,
    some "see \x7b\x7bdefault_reduction\x7d\x7d", 1, 0, []⟩

-- The template has no default reduction to replace; what the member wrote is replaced all the same.
set_option maxRecDepth 4000 in
theorem member_expanded :
    ¬ RendersAtOnce team .summarise [quotingMember] "baseline" "\x7b\x7binputs\x7d\x7d" := by
  intro renders
  have expanded := renders.expanded
    ((replacements team .summarise [quotingMember] "baseline").take 5) _ [] rfl
  exact absurd expanded (by decide)

end Missive.ReduceTemplates
