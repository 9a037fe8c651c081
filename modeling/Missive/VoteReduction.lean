import Missive.LastMax
import Missive.ReduceTemplates
import Missive.TableSums

/-! The vote of a reduction. `local_vote` counts the texts of the gathered inputs by a normal form
and reports the one that was given most often. There is an input for every vote, so a count that
would saturate is beyond any list of inputs. -/
namespace Missive.VoteReduction

open RustText KeyedTable Missive.Core ReduceTemplates

def splitWhitespace (text : Text) : List Text :=
  (text.splitOnP isWhitespace).filter fun word => !word.isEmpty

def normalizeVoteText (text : String) : String :=
  String.ofList (lowercase ([' '].intercalate (splitWhitespace text.toList)))

structure Tally where
  normalized : String
  count : Nat
  original : String
  sources : List String

instance : Keyed Tally String := ⟨Tally.normalized⟩

def voter (input : ReduceInputView) : String := s!"{input.rank} ({input.agent})"

-- `tallies.entry(normalized).or_insert_with(..)`
def tallyEntry (tallies : Table Tally) (text : String) : Tally :=
  (tallies.find? (normalizeVoteText text)).getD ⟨normalizeVoteText text, 0, text, []⟩

def countVote (tallies : Table Tally) (input : ReduceInputView) : Table Tally :=
  match input.text with
  | none => tallies
  | some text =>
      let entry := tallyEntry tallies text
      tallies.put { entry with
        count := entry.count + 1
        sources := entry.sources ++ [voter input] }

def countVotes (inputs : List ReduceInputView) : Table Tally := inputs.foldl countVote Table.empty

def voteTallies (provenance : List ReduceInputView) : Table Tally :=
  countVotes (gatheredInputs provenance)

-- `left.1.0.cmp(&right.1.0).then_with(|| right.0.cmp(left.0))`
def standing (tally : Tally) : Lex (Nat × OrderDual String) :=
  toLex (tally.count, OrderDual.toDual tally.normalized)

def voteWinner (tallies : Table Tally) : Option Tally := LastMax.maxByKey standing tallies.rows

def votesCast (tallies : Table Tally) : Nat := (tallies.rows.map Tally.count).sum

def tallyLine (tally : Tally) : String :=
  s!"- {debug tally.original}: {tally.count} vote(s) from " ++ ", ".intercalate tally.sources

def voteReport (winner : Tally) (tallies : Table Tally) : String :=
  "\n".intercalate
    ((s!"Vote result: {debug winner.original} received {winner.count} of " ++
        s!"{votesCast tallies} vote(s).") ::
      "Tallies:" :: tallies.rows.map tallyLine)

-- Only an empty table has no winner.
def localVote (provenance : List ReduceInputView) : Except MissiveError String :=
  match voteWinner (voteTallies provenance) with
  | none =>
      .error ((MissiveError.validation "vote reduction requires at least one text input").withHelp
        "Use a different strategy when gathered outputs only contain artifacts.")
  | some winner => .ok (voteReport winner (voteTallies provenance))

/-! The normal form: the words of a text, in lower case. -/

def foldedWords (text : String) : List Text := (splitWhitespace text.toList).map lowercase

theorem splitOnP_free {separator : Char → Bool} {text part : Text}
    (member : part ∈ text.splitOnP separator) : ∀ c ∈ part, separator c = false := by
  induction text generalizing part with
  | nil =>
      obtain rfl : part = [] := by simpa using member
      simp
  | cons c rest ih =>
      rw [List.splitOnP_cons_eq_if_modifyHead] at member
      by_cases separates : separator c = true
      · rw [if_pos separates] at member
        rcases List.mem_cons.mp member with rfl | later
        · simp
        · exact ih later
      · rw [if_neg separates] at member
        cases parts : rest.splitOnP separator with
        | nil => simp [parts] at member
        | cons first others =>
            rw [parts] at ih member
            rcases List.mem_cons.mp member with rfl | later
            · intro d inside
              rcases List.mem_cons.mp inside with rfl | inner
              · exact eq_false_of_ne_true separates
              · exact ih List.mem_cons_self d inner
            · exact ih (List.mem_cons_of_mem _ later)

theorem foldedWords_solid {text : String} {word : Text} (member : word ∈ foldedWords text) :
    word ≠ [] ∧ ' ' ∉ word := by
  obtain ⟨written, found, rfl⟩ := List.mem_map.mp member
  have ⟨part, filled⟩ := List.mem_filter.mp found
  constructor
  · intro empty
    have none : written = [] := List.map_eq_nil_iff.mp empty
    simp [none] at filled
  · intro space
    obtain ⟨c, inside, folded⟩ := List.mem_map.mp space
    have kept := lowercase_keeps (fun c => c == ' ') (by decide) c
    rw [folded] at kept
    have same : c = ' ' := by simpa using kept.symm
    have blank := splitOnP_free part c inside
    rw [same] at blank
    exact absurd blank (by decide)

theorem lowercase_join (words : List Text) :
    lowercase ([' '].intercalate words) = [' '].intercalate (words.map lowercase) := by
  induction words with
  | nil => rfl
  | cons word rest ih =>
      by_cases last : rest = []
      · subst last
        simp
      · have more : rest.map lowercase ≠ [] := by simpa using last
        rw [List.intercalate_cons_of_ne_nil last, List.map_cons,
          List.intercalate_cons_of_ne_nil more, lowercase_append, lowercase_append, ih]
        rfl

theorem join_filled {word : Text} (filled : word ≠ []) (rest : List Text) :
    [' '].intercalate (word :: rest) ≠ [] := by
  by_cases last : rest = []
  · subst last
    simpa using filled
  · rw [List.intercalate_cons_of_ne_nil last]
    simp [filled]

theorem join_injective {words others : List Text} (solid : ∀ word ∈ words, word ≠ [] ∧ ' ' ∉ word)
    (apart : ∀ word ∈ others, word ≠ [] ∧ ' ' ∉ word)
    (same : [' '].intercalate words = [' '].intercalate others) : words = others := by
  cases words with
  | nil =>
      cases others with
      | nil => rfl
      | cons word rest =>
          exact absurd same.symm (join_filled (apart word List.mem_cons_self).1 rest)
  | cons word rest =>
      cases others with
      | nil => exact absurd same (join_filled (solid word List.mem_cons_self).1 rest)
      | cons other more =>
          rw [← List.splitOn_intercalate ' ' (fun word member => (solid word member).2)
            (List.cons_ne_nil word rest), same,
            List.splitOn_intercalate ' ' (fun word member => (apart word member).2)
            (List.cons_ne_nil other more)]

/-- Texts have one normal form just when they are made of the same words, up to case. -/
theorem normalize_same_iff (text other : String) :
    normalizeVoteText text = normalizeVoteText other ↔ foldedWords text = foldedWords other := by
  unfold normalizeVoteText
  rw [lowercase_join, lowercase_join]
  constructor
  · intro same
    exact join_injective (fun _ => foldedWords_solid) (fun _ => foldedWords_solid)
      (String.ofList_injective same)
  · intro same
    exact congrArg (fun words => String.ofList ([' '].intercalate words)) same

/-! The tallies. -/

-- Those among the inputs that voted for a normal form.
def voters (normalized : String) (inputs : List ReduceInputView) : List ReduceInputView :=
  inputs.filter fun input => input.text.map normalizeVoteText = some normalized

def tallyOf (normalized : String) (voters : List ReduceInputView) : Option Tally :=
  voters.head?.map fun first =>
    ⟨normalized, voters.length, first.text.getD "", voters.map voter⟩

theorem countVotes_concat (inputs : List ReduceInputView) (input : ReduceInputView) :
    countVotes (inputs ++ [input]) = countVote (countVotes inputs) input := by
  simp [countVotes]

theorem voters_concat (normalized : String) (inputs : List ReduceInputView)
    (input : ReduceInputView) :
    voters normalized (inputs ++ [input]) =
      if input.text.map normalizeVoteText = some normalized then voters normalized inputs ++ [input]
      else voters normalized inputs := by
  by_cases here : input.text.map normalizeVoteText = some normalized
  · rw [if_pos here, voters, List.filter_append, List.filter_singleton, decide_eq_true here]
    rfl
  · rw [if_neg here, voters, List.filter_append, List.filter_singleton, decide_eq_false here]
    exact List.append_nil _

theorem tallyEntry_key (tallies : Table Tally) (text : String) :
    (tallyEntry tallies text).normalized = normalizeVoteText text := by
  unfold tallyEntry
  cases found : tallies.find? (normalizeVoteText text) with
  | none => rfl
  | some entry => exact tallies.find?_key found

theorem find_countVotes (inputs : List ReduceInputView) (normalized : String) :
    (countVotes inputs).find? normalized = tallyOf normalized (voters normalized inputs) := by
  induction inputs using List.reverseRecOn generalizing normalized with
  | nil => rfl
  | append_singleton inputs input ih =>
      rw [countVotes_concat, voters_concat]
      cases given : input.text with
      | none => simp [countVote, given, ih]
      | some text =>
          simp only [countVote, given, Option.map_some, Option.some.injEq]
          rw [Table.find?_put]
          change (if normalized = (tallyEntry (countVotes inputs) text).normalized
            then _ else _) = _
          rw [tallyEntry_key, ih]
          by_cases same : normalizeVoteText text = normalized
          · subst same
            rw [if_pos rfl, if_pos rfl, tallyEntry, ih]
            cases voters (normalizeVoteText text) inputs with
            | nil => simp [tallyOf, given]
            | cons first rest => simp [tallyOf]
          · rw [if_neg (Ne.symm same), if_neg same]

theorem votesCast_counted (inputs : List ReduceInputView) :
    votesCast (countVotes inputs) = (inputs.filterMap ReduceInputView.text).length := by
  induction inputs using List.reverseRecOn with
  | nil => rfl
  | append_singleton inputs input ih =>
      rw [countVotes_concat, List.filterMap_append, List.length_append, ← ih]
      cases given : input.text with
      | none => simp [countVote, given]
      | some text =>
          have sum := (countVotes inputs).sum_put Tally.count
            { tallyEntry (countVotes inputs) text with
              count := (tallyEntry (countVotes inputs) text).count + 1
              sources := (tallyEntry (countVotes inputs) text).sources ++ [voter input] }
          change _ + ((countVotes inputs).find?
            (tallyEntry (countVotes inputs) text).normalized).elim 0 Tally.count = _ at sum
          have held : (tallyEntry (countVotes inputs) text).count =
              ((countVotes inputs).find? (normalizeVoteText text)).elim 0 Tally.count := by
            unfold tallyEntry
            cases (countVotes inputs).find? (normalizeVoteText text) <;> rfl
          rw [tallyEntry_key, ← held] at sum
          simp only [countVote, given, votesCast, List.filterMap_cons, List.filterMap_nil,
            List.length_singleton]
          dsimp only at sum
          omega

/-! The election. -/

section Election

variable {provenance : List ReduceInputView} {tally : Tally}

def votesGiven (provenance : List ReduceInputView) : List String :=
  (gatheredInputs provenance).filterMap ReduceInputView.text

def votersFor (provenance : List ReduceInputView) (normalized : String) : List ReduceInputView :=
  voters normalized (gatheredInputs provenance)

structure Election (provenance : List ReduceInputView) (winner : Tally) : Prop where
  reported : localVote provenance = .ok (voteReport winner (voteTallies provenance))
  total : votesCast (voteTallies provenance) = (votesGiven provenance).length
  counted : ∀ tally ∈ (voteTallies provenance).rows,
    tally.count = (votersFor provenance tally.normalized).length ∧
      tally.sources = (votersFor provenance tally.normalized).map voter
  together : ∀ first ∈ gatheredInputs provenance, ∀ last ∈ gatheredInputs provenance,
    ∀ text other, first.text = some text → last.text = some other →
      ((∃ tally ∈ (voteTallies provenance).rows,
          first ∈ votersFor provenance tally.normalized ∧
            last ∈ votersFor provenance tally.normalized) ↔
        foldedWords text = foldedWords other)
  elected : winner ∈ (voteTallies provenance).rows
  greatest : ∀ tally ∈ (voteTallies provenance).rows, tally.count ≤ winner.count
  ties : ∀ tally ∈ (voteTallies provenance).rows,
    tally.count = winner.count → winner.normalized ≤ tally.normalized

theorem mem_voteTallies :
    tally ∈ (voteTallies provenance).rows ↔
      tallyOf tally.normalized (votersFor provenance tally.normalized) = some tally := by
  have kept := (voteTallies provenance).find?_eq_some tally.normalized tally
  rw [voteTallies, find_countVotes] at kept
  exact (kept.trans (and_iff_left rfl)).symm

theorem tally_counted (member : tally ∈ (voteTallies provenance).rows) :
    tally.count = (votersFor provenance tally.normalized).length ∧
      tally.sources = (votersFor provenance tally.normalized).map voter := by
  have made := mem_voteTallies.mp member
  obtain ⟨first, _, same⟩ := Option.map_eq_some_iff.mp made
  exact ⟨(congrArg Tally.count same).symm, (congrArg Tally.sources same).symm⟩

-- A normal form has a tally as soon as somebody voted for it.
theorem tally_present {normalized : String} (some : votersFor provenance normalized ≠ []) :
    ∃ tally ∈ (voteTallies provenance).rows, tally.normalized = normalized := by
  cases shown : votersFor provenance normalized with
  | nil => exact absurd shown some
  | cons first rest =>
      refine ⟨⟨normalized, (first :: rest).length, first.text.getD "", (first :: rest).map voter⟩,
        mem_voteTallies.mpr ?_, rfl⟩
      rw [shown]
      rfl

theorem tally_voted (member : tally ∈ (voteTallies provenance).rows) :
    votersFor provenance tally.normalized ≠ [] := by
  intro none
  have made := mem_voteTallies.mp member
  rw [none] at made
  cases made

theorem mem_votersFor {input : ReduceInputView} {text : String}
    (gathered : input ∈ gatheredInputs provenance) (given : input.text = some text)
    (normalized : String) :
    input ∈ votersFor provenance normalized ↔ normalizeVoteText text = normalized := by
  simp [votersFor, voters, gathered, given]

theorem counted_together {first last : ReduceInputView} {text other : String}
    (gathered : first ∈ gatheredInputs provenance) (listed : last ∈ gatheredInputs provenance)
    (given : first.text = some text) (written : last.text = some other) :
    (∃ tally ∈ (voteTallies provenance).rows,
        first ∈ votersFor provenance tally.normalized ∧
          last ∈ votersFor provenance tally.normalized) ↔
      foldedWords text = foldedWords other := by
  rw [← normalize_same_iff]
  simp only [mem_votersFor gathered given, mem_votersFor listed written]
  constructor
  · rintro ⟨tally, _, same, equal⟩
    rw [same, equal]
  · intro same
    have own : first ∈ votersFor provenance (normalizeVoteText text) :=
      (mem_votersFor gathered given _).mpr rfl
    obtain ⟨tally, member, named⟩ := tally_present (List.ne_nil_of_mem own)
    exact ⟨tally, member, named.symm, by rw [named, same]⟩

theorem standing_le {first last : Tally} :
    standing first ≤ standing last ↔
      first.count < last.count ∨ first.count = last.count ∧ last.normalized ≤ first.normalized := by
  rw [standing, standing, Prod.Lex.toLex_le_toLex]
  rfl

theorem winner_elected {winner : Tally}
    (found : voteWinner (voteTallies provenance) = some winner) :
    Election provenance winner where
  reported := by rw [localVote, found]
  total := votesCast_counted (gatheredInputs provenance)
  counted _ member := tally_counted member
  together _ gathered _ listed _ _ given written := counted_together gathered listed given written
  elected := LastMax.maxByKey_mem found
  greatest tally member := by
    rcases standing_le.mp (LastMax.maxByKey_le found tally member) with less | ⟨same, _⟩
    · exact less.le
    · exact same.le
  ties tally member equal := by
    rcases standing_le.mp (LastMax.maxByKey_le found tally member) with less | ⟨_, least⟩
    · exact absurd equal less.ne
    · exact least

theorem winner_none :
    voteWinner (voteTallies provenance) = none ↔
      ∀ input ∈ gatheredInputs provenance, input.text = none := by
  rw [voteWinner, LastMax.maxByKey_eq_none, List.eq_nil_iff_forall_not_mem]
  constructor
  · intro empty input gathered
    cases given : input.text with
    | none => rfl
    | some text =>
        have own : input ∈ votersFor provenance (normalizeVoteText text) :=
          (mem_votersFor gathered given _).mpr rfl
        obtain ⟨tally, member, _⟩ := tally_present (List.ne_nil_of_mem own)
        exact absurd member (empty tally)
  · intro silent tally member
    obtain ⟨input, voted⟩ := List.exists_mem_of_ne_nil _ (tally_voted member)
    have ⟨gathered, given⟩ := List.mem_filter.mp voted
    simp [silent input gathered] at given

theorem votersFor_perm {reordered : List ReduceInputView} (perm : provenance.Perm reordered)
    (normalized : String) :
    (votersFor provenance normalized).Perm (votersFor reordered normalized) :=
  (perm.filter _).filter _

-- Under another order of the inputs a normal form has a tally of the same count.
theorem tally_reordered {reordered : List ReduceInputView} (perm : provenance.Perm reordered)
    (member : tally ∈ (voteTallies provenance).rows) :
    ∃ other ∈ (voteTallies reordered).rows,
      other.normalized = tally.normalized ∧ other.count = tally.count := by
  have voted := votersFor_perm perm tally.normalized
  have some : votersFor reordered tally.normalized ≠ [] := by
    intro none
    rw [none] at voted
    exact tally_voted member voted.eq_nil
  obtain ⟨other, listed, named⟩ := tally_present some
  refine ⟨other, listed, named, ?_⟩
  rw [(tally_counted listed).1, (tally_counted member).1, named, voted.length_eq]

theorem winner_reordered {reordered : List ReduceInputView} {winner other : Tally}
    (perm : provenance.Perm reordered) (election : Election provenance winner)
    (again : Election reordered other) :
    other.normalized = winner.normalized ∧ other.count = winner.count := by
  obtain ⟨own, ownListed, ownNamed, ownCount⟩ := tally_reordered perm election.elected
  obtain ⟨theirs, listed, named, count⟩ := tally_reordered perm.symm again.elected
  have most := again.greatest own ownListed
  have least := election.greatest theirs listed
  have same : other.count = winner.count := by omega
  have first := again.ties own ownListed (by omega)
  have last := election.ties theirs listed (by omega)
  rw [ownNamed] at first
  rw [named] at last
  exact ⟨le_antisymm first last, same⟩

/-- A vote fails only without a text to count; otherwise it elects the most frequent text, the least
of them in a tie, whatever the order of the inputs. -/
theorem vote_elects (provenance : List ReduceInputView) :
    ((∃ error, localVote provenance = .error error) ↔
      ∀ input ∈ gatheredInputs provenance, input.text = none) ∧
    ((∃ input ∈ gatheredInputs provenance, input.text ≠ none) →
      ∃ winner, Election provenance winner ∧
        ∀ reordered, provenance.Perm reordered →
          ∃ other, Election reordered other ∧
            other.normalized = winner.normalized ∧ other.count = winner.count) := by
  constructor
  · rw [← winner_none, localVote]
    cases voteWinner (voteTallies provenance) <;> simp
  · rintro ⟨input, gathered, given⟩
    cases found : voteWinner (voteTallies provenance) with
    | none => exact absurd (winner_none.mp found input gathered) given
    | some winner =>
        refine ⟨winner, winner_elected found, fun reordered perm => ?_⟩
        cases again : voteWinner (voteTallies reordered) with
        | none =>
            have moved := (perm.filter _).mem_iff.mp gathered
            exact absurd (winner_none.mp again input moved) given
        | some other =>
            exact ⟨other, winner_elected again,
              winner_reordered perm (winner_elected found) (winner_elected again)⟩

end Election

def ballot (rank agent text : String) : ReduceInputView :=
  ⟨agent, rank, "gathered", none, some text, 1, 0, []⟩

def ballots : List ReduceInputView :=
  [ballot "rank-0" "alpha" "Yes", ballot "rank-1" "beta" " yes ", ballot "rank-2" "gamma" "No"]

theorem ballots_elect : ∃ winner, Election ballots winner ∧
    ∀ reordered, ballots.Perm reordered →
      ∃ other, Election reordered other ∧
        other.normalized = winner.normalized ∧ other.count = winner.count :=
  (vote_elects ballots).2
    ⟨ballot "rank-0" "alpha" "Yes", List.mem_filter.mpr ⟨List.mem_cons_self, rfl⟩, nofun⟩

end Missive.VoteReduction
