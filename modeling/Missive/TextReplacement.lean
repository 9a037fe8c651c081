import Mathlib.Data.List.Infix

/-! Replacing a needle in a text, and filling the holes of a template, one kind after the other. A
text is split at the occurrences of a needle, found from left to right, none of them overlapping the
one before it; occurrences of needles that never overlap split a text wherever it is cut. -/
namespace Missive.TextReplacement

variable {α : Type} [DecidableEq α]

-- The first argument counts what is left of an occurrence that has been found.
def splitFrom (needle : List α) : Nat → List α → List (List α)
  | _, [] => [[]]
  | skip + 1, _ :: rest => splitFrom needle skip rest
  | 0, c :: rest =>
      if needle.isPrefixOf (c :: rest) then [] :: splitFrom needle (needle.length - 1) rest
      else (splitFrom needle 0 rest).modifyHead (c :: ·)

def split (needle text : List α) : List (List α) := splitFrom needle 0 text

def replace (needle value text : List α) : List α := value.intercalate (split needle text)

def occurrences (needle text : List α) : Nat := (split needle text).length - 1

-- No occurrence of the second needle starts inside an occurrence of the first one.
def Separate (first second : List α) : Prop :=
  ∀ inside rest, inside ≠ [] → rest ≠ [] → first = inside ++ rest →
    ¬ rest <+: second ∧ ¬ second <+: rest

omit [DecidableEq α] in
theorem found_ahead {first second ahead rest : List α} (separate : Separate first second)
    (filled : ahead ≠ []) (found : first <+: ahead ++ (second ++ rest)) : first <+: ahead := by
  by_cases fits : first.length ≤ ahead.length
  · exact List.prefix_of_prefix_length_le found (List.prefix_append _ _) fits
  · have whole : ahead <+: first :=
      List.prefix_of_prefix_length_le (List.prefix_append _ _) found (by omega)
    obtain ⟨tail, rfl⟩ := whole
    have more : tail ≠ [] := by
      rintro rfl
      exact fits (by simp)
    have ⟨after, before⟩ := separate ahead tail filled more rfl
    have ends : tail <+: second ++ rest := (List.prefix_append_right_inj ahead).mp found
    rcases le_total tail.length second.length with shorter | longer
    · exact absurd (List.prefix_of_prefix_length_le ends (List.prefix_append _ _) shorter) after
    · exact absurd (List.prefix_of_prefix_length_le (List.prefix_append _ _) ends longer) before

def separated (first second : List α) : Bool :=
  (List.range first.length).all fun i => i == 0 ||
    !((first.drop i).isPrefixOf second || second.isPrefixOf (first.drop i))

theorem separated_sound {first second : List α} (checked : separated first second = true) :
    Separate first second := by
  rintro inside rest filled more rfl
  have some := List.length_pos_iff.mpr filled
  have behind := List.length_pos_iff.mpr more
  have here := List.all_eq_true.mp checked inside.length (by simpa using behind)
  simpa [Nat.ne_of_gt some, ← List.isPrefixOf_iff_prefix] using here

theorem splitFrom_ne_nil (needle : List α) (skip : Nat) (text : List α) :
    splitFrom needle skip text ≠ [] := by
  induction text generalizing skip with
  | nil => cases skip <;> simp [splitFrom]
  | cons c rest ih =>
      cases skip with
      | succ skip => exact ih skip
      | zero =>
          rw [splitFrom]
          split
          · simp
          · simpa using ih 0

theorem split_ne_nil (needle text : List α) : split needle text ≠ [] :=
  splitFrom_ne_nil needle 0 text

theorem splitFrom_skipped (needle passed rest : List α) :
    splitFrom needle passed.length (passed ++ rest) = split needle rest := by
  induction passed with
  | nil => rfl
  | cons c passed ih => exact ih

theorem split_found {needle : List α} (filled : needle ≠ []) (rest : List α) :
    split needle (needle ++ rest) = [] :: split needle rest := by
  cases needle with
  | nil => exact absurd rfl filled
  | cons c tail =>
      have found : c :: tail <+: c :: (tail ++ rest) := List.prefix_append _ _
      rw [split, List.cons_append, splitFrom, if_pos (List.isPrefixOf_iff_prefix.mpr found)]
      exact congrArg ([] :: ·) (splitFrom_skipped (c :: tail) tail rest)

theorem splitFrom_at {needle : List α} (separate : Separate needle needle) (filled : needle ≠ [])
    (ahead rest : List α) (skip : Nat) (within : skip ≤ ahead.length) :
    splitFrom needle skip (ahead ++ (needle ++ rest)) =
      splitFrom needle skip ahead ++ split needle rest := by
  induction ahead generalizing skip with
  | nil =>
      obtain rfl : skip = 0 := by simpa using within
      exact split_found filled rest
  | cons c ahead ih =>
      cases skip with
      | succ skip => exact ih skip (by simpa using within)
      | zero =>
          have here : needle <+: c :: (ahead ++ (needle ++ rest)) ↔ needle <+: c :: ahead :=
            ⟨found_ahead separate (List.cons_ne_nil c ahead),
              fun found => found.trans (List.prefix_append (c :: ahead) _)⟩
          rw [List.cons_append, splitFrom, splitFrom]
          simp only [List.isPrefixOf_iff_prefix]
          by_cases found : needle <+: c :: ahead
          · have short := found.length_le
            rw [if_pos (here.mpr found), if_pos found, ih _ (by simp at short; omega)]
            rfl
          · rw [if_neg (found ∘ here.mp), if_neg found, ih 0 (Nat.zero_le _)]
            cases parts : splitFrom needle 0 ahead with
            | nil => exact absurd parts (splitFrom_ne_nil needle 0 ahead)
            | cons part parts => rfl

theorem split_at {needle : List α} (separate : Separate needle needle) (filled : needle ≠ [])
    (ahead rest : List α) :
    split needle (ahead ++ (needle ++ rest)) = split needle ahead ++ split needle rest :=
  splitFrom_at separate filled ahead rest 0 (Nat.zero_le _)

theorem split_clear {needle text : List α} (clear : ¬ needle <:+: text) :
    split needle text = [text] := by
  induction text with
  | nil => rfl
  | cons c rest ih =>
      have absent : ¬ needle <+: c :: rest := fun found => clear found.isInfix
      have later : ¬ needle <:+: rest := fun found =>
        clear (found.trans (List.suffix_cons c rest).isInfix)
      rw [split, splitFrom, if_neg (absent ∘ List.isPrefixOf_iff_prefix.mp)]
      exact congrArg (List.modifyHead (c :: ·)) (ih later)

theorem split_clear_iff {needle : List α} (separate : Separate needle needle)
    (filled : needle ≠ []) (text : List α) :
    (split needle text).length = 1 ↔ ¬ needle <:+: text := by
  constructor
  · rintro single ⟨ahead, rest, rfl⟩
    rw [List.append_assoc, split_at separate filled, List.length_append] at single
    have := List.length_pos_iff.mpr (split_ne_nil needle ahead)
    have := List.length_pos_iff.mpr (split_ne_nil needle rest)
    omega
  · intro clear
    rw [split_clear clear]
    rfl

omit [DecidableEq α] in
theorem intercalate_cons (value first : List α) {parts : List (List α)} (more : parts ≠ []) :
    value.intercalate (first :: parts) = first ++ (value ++ value.intercalate parts) := by
  cases parts with
  | nil => exact absurd rfl more
  | cons part parts => simp [List.intercalate]

omit [DecidableEq α] in
theorem intercalate_modifyHead (value front : List α) {parts : List (List α)}
    (present : parts ≠ []) :
    value.intercalate (parts.modifyHead (front ++ ·)) = front ++ value.intercalate parts := by
  cases parts with
  | nil => exact absurd rfl present
  | cons part parts =>
      by_cases more : parts = []
      · subst more
        simp [List.intercalate]
      · rw [List.modifyHead_cons, intercalate_cons value _ more, intercalate_cons value _ more,
          List.append_assoc]

-- A single character has a value of its own wherever it stands.
theorem replace_single (c : α) (value text : List α) :
    replace [c] value text = text.flatMap fun d => if d = c then value else [d] := by
  unfold replace split
  induction text with
  | nil => rfl
  | cons d rest ih =>
      have more : splitFrom [c] 0 rest ≠ [] := splitFrom_ne_nil [c] 0 rest
      by_cases same : d = c
      · subst same
        have found : splitFrom [d] 0 (d :: rest) = [] :: splitFrom [d] 0 rest := by
          simp [splitFrom, List.isPrefixOf]
        rw [found, intercalate_cons value [] more, ih]
        simp
      · have kept : splitFrom [c] 0 (d :: rest) = (splitFrom [c] 0 rest).modifyHead ([d] ++ ·) := by
          simp [splitFrom, List.isPrefixOf, Ne.symm same]
        rw [kept, intercalate_modifyHead value [d] more, ih]
        simp [same]

theorem split_intercalate {needle : List α} (separate : Separate needle needle)
    (filled : needle ≠ []) {parts : List (List α)} (present : parts ≠ []) :
    split needle (needle.intercalate parts) = parts.flatMap (split needle) := by
  induction parts with
  | nil => exact absurd rfl present
  | cons part parts ih =>
      by_cases more : parts = []
      · subst more
        simp [List.intercalate]
      · rw [intercalate_cons needle part more, split_at separate filled, ih more]
        rfl

/-! Templates. The holes of a template are the occurrences of a family of needles in its text. -/

variable {ι : Type}

section Tokens

variable (needle : ι → List α) (holes : List ι)

def tokensFrom : Nat → List α → List (α ⊕ ι)
  | _, [] => []
  | skip + 1, _ :: rest => tokensFrom skip rest
  | 0, c :: rest =>
      match holes.find? fun hole => (needle hole).isPrefixOf (c :: rest) with
      | some hole => .inr hole :: tokensFrom ((needle hole).length - 1) rest
      | none => .inl c :: tokensFrom 0 rest

def tokens (text : List α) : List (α ⊕ ι) := tokensFrom needle holes 0 text

structure Family : Prop where
  complete : ∀ hole, hole ∈ holes
  filled : ∀ hole, needle hole ≠ []
  separate : ∀ first second, Separate (needle first) (needle second)
  distinct : ∀ first second, needle first <+: needle second → first = second

end Tokens

def fill (value : ι → List α) (tokens : List (α ⊕ ι)) : List α :=
  tokens.flatMap (Sum.elim (fun c => [c]) value)

omit [DecidableEq α] in
theorem fill_cons (value : ι → List α) (token : α ⊕ ι) (rest : List (α ⊕ ι)) :
    fill value (token :: rest) = fill value [token] ++ fill value rest := by
  simp [fill]

section Found

variable {needle : ι → List α} {holes : List ι}

theorem fill_tokensFrom (filled : ∀ hole, needle hole ≠ []) (skip : Nat) (text : List α) :
    fill needle (tokensFrom needle holes skip text) = text.drop skip := by
  induction text generalizing skip with
  | nil => cases skip <;> rfl
  | cons c rest ih =>
      cases skip with
      | succ skip => exact ih skip
      | zero =>
          rw [tokensFrom]
          cases found : holes.find? fun hole => (needle hole).isPrefixOf (c :: rest) with
          | none => exact congrArg (c :: ·) (ih 0)
          | some hole =>
              have starts : needle hole <+: c :: rest :=
                List.isPrefixOf_iff_prefix.mp (by simpa using List.find?_some found)
              obtain ⟨tail, whole⟩ := starts
              have head : fill needle (.inr hole ::
                  tokensFrom needle holes ((needle hole).length - 1) rest) =
                    needle hole ++ rest.drop ((needle hole).length - 1) := by
                rw [← ih]
                rfl
              show fill needle (.inr hole :: _) = _
              rw [head]
              cases text : needle hole with
              | nil => exact absurd text (filled hole)
              | cons d inner =>
                  rw [text, List.cons_append, List.cons.injEq] at whole
                  simp [← whole.2, whole.1]

theorem fill_tokens (filled : ∀ hole, needle hole ≠ []) (text : List α) :
    fill needle (tokens needle holes text) = text := fill_tokensFrom filled 0 text

theorem tokensFrom_skipped (passed rest : List α) :
    tokensFrom needle holes passed.length (passed ++ rest) = tokens needle holes rest := by
  induction passed with
  | nil => rfl
  | cons c passed ih => exact ih

theorem tokens_found (family : Family needle holes) (hole : ι) (rest : List α) :
    tokens needle holes (needle hole ++ rest) = .inr hole :: tokens needle holes rest := by
  cases text : needle hole with
  | nil => exact absurd text (family.filled hole)
  | cons c tail =>
      have starts : needle hole <+: c :: (tail ++ rest) := by
        rw [text]
        exact List.prefix_append (c :: tail) rest
      have found : holes.find? (fun other => (needle other).isPrefixOf (c :: (tail ++ rest))) =
          some hole := by
        cases result : holes.find? fun other => (needle other).isPrefixOf (c :: (tail ++ rest)) with
        | none =>
            have absent := List.find?_eq_none.mp result hole (family.complete hole)
            exact absurd (List.isPrefixOf_iff_prefix.mpr starts) absent
        | some other =>
            have begins : needle other <+: c :: (tail ++ rest) :=
              List.isPrefixOf_iff_prefix.mp (by simpa using List.find?_some result)
            rcases le_total (needle other).length (needle hole).length with shorter | longer
            · rw [family.distinct other hole
                (List.prefix_of_prefix_length_le begins starts shorter)]
            · rw [family.distinct hole other
                (List.prefix_of_prefix_length_le starts begins longer)]
      rw [tokens, List.cons_append, tokensFrom, found]
      simp only [text, List.length_cons, Nat.add_sub_cancel]
      rw [tokensFrom_skipped]

theorem tokens_plain {c : α} {rest : List α} (plain : ∀ hole, ¬ needle hole <+: c :: rest) :
    tokens needle holes (c :: rest) = .inl c :: tokens needle holes rest := by
  have absent : holes.find? (fun hole => (needle hole).isPrefixOf (c :: rest)) = none := by
    rw [List.find?_eq_none]
    exact fun hole _ found => plain hole (List.isPrefixOf_iff_prefix.mp found)
  rw [tokens, tokensFrom, absent]
  rfl

theorem length_split_passed {second passed rest : List α}
    (clear : ∀ tail, tail ≠ [] → tail <:+ passed → ¬ second <+: tail ++ rest) :
    (split second (passed ++ rest)).length = (split second rest).length := by
  induction passed with
  | nil => rfl
  | cons c passed ih =>
      have absent : ¬ second <+: c :: (passed ++ rest) :=
        clear (c :: passed) (List.cons_ne_nil _ _) List.suffix_rfl
      rw [List.cons_append, split, splitFrom, if_neg (absent ∘ List.isPrefixOf_iff_prefix.mp),
        List.length_modifyHead]
      exact ih fun tail filled ends => clear tail filled (ends.trans (List.suffix_cons c passed))

theorem length_split_other (family : Family needle holes) {first second : ι}
    (apart : first ≠ second) (rest : List α) :
    (split (needle second) (needle first ++ rest)).length =
      (split (needle second) rest).length := by
  apply length_split_passed
  rintro tail filled ⟨inside, whole⟩ found
  have either : needle second <+: tail ∨ tail <+: needle second :=
    List.prefix_or_prefix_of_prefix found (List.prefix_append tail rest)
  by_cases start : inside = []
  · subst start
    rw [List.nil_append] at whole
    rw [whole] at either
    rcases either with before | after
    · exact apart (family.distinct second first before).symm
    · exact apart (family.distinct first second after)
  · have ⟨after, before⟩ := family.separate first second inside tail start filled whole.symm
    exact either.elim before after

end Found

variable [DecidableEq ι]

def isHole (hole : ι) : α ⊕ ι → Bool
  | .inl _ => false
  | .inr other => other = hole

def stretches (hole : ι) (tokens : List (α ⊕ ι)) : List (List (α ⊕ ι)) :=
  tokens.splitOnP (isHole hole)

omit [DecidableEq α] in
theorem stretches_cons (hole : ι) (token : α ⊕ ι) (rest : List (α ⊕ ι)) :
    stretches hole (token :: rest) =
      if isHole hole token then [] :: stretches hole rest
      else (stretches hole rest).modifyHead (token :: ·) :=
  List.splitOnP_cons_eq_if_modifyHead token rest

omit [DecidableEq α] in
theorem length_stretches (hole : ι) (tokens : List (α ⊕ ι)) :
    (stretches hole tokens).length = tokens.countP (isHole hole) + 1 := by
  induction tokens with
  | nil => rfl
  | cons token rest ih =>
      rw [stretches_cons]
      by_cases here : isHole hole token = true
      · rw [if_pos here, List.length_cons, List.countP_cons_of_pos here, ih]
      · rw [if_neg here, List.length_modifyHead, List.countP_cons_of_neg here, ih]

omit [DecidableEq α] in
theorem fill_stretches {hole : ι} {value others : ι → List α}
    (same : ∀ other, other ≠ hole → value other = others other) (tokens : List (α ⊕ ι)) :
    fill value tokens = (value hole).intercalate ((stretches hole tokens).map (fill others)) := by
  induction tokens with
  | nil => rfl
  | cons token rest ih =>
      have present : (stretches hole rest).map (fill others) ≠ [] := by
        simp [stretches, List.splitOnP_ne_nil]
      rw [stretches_cons, fill_cons, ih]
      by_cases here : isHole hole token = true
      · cases token with
        | inl c => exact absurd here Bool.false_ne_true
        | inr other =>
            obtain rfl : other = hole := by simpa [isHole] using here
            rw [if_pos here, List.map_cons, intercalate_cons _ _ present]
            simp [fill]
      · have kept : fill value [token] = fill others [token] := by
          cases token with
          | inl c => rfl
          | inr other => simpa [fill] using same other (by simpa [isHole] using here)
        have front : (((stretches hole rest).modifyHead (token :: ·)).map (fill others)) =
            ((stretches hole rest).map (fill others)).modifyHead (fill others [token] ++ ·) := by
          cases stretches hole rest with
          | nil => rfl
          | cons part parts => rw [List.modifyHead_cons, List.map_cons, fill_cons]; rfl
        rw [if_neg here, front, intercalate_modifyHead _ _ present, kept]

theorem length_split_tokens {needle : ι → List α} {holes : List ι}
    (family : Family needle holes) (hole : ι) (text : List α) :
    (split (needle hole) text).length = (stretches hole (tokens needle holes text)).length := by
  induction size : text.length using Nat.strong_induction_on generalizing text with
  | _ size ih =>
      subst size
      by_cases found : ∃ other rest, text = needle other ++ rest
      · obtain ⟨other, rest, rfl⟩ := found
        have shorter : rest.length < (needle other ++ rest).length := by
          have := List.length_pos_iff.mpr (family.filled other)
          rw [List.length_append]
          omega
        have later := ih rest.length shorter rest rfl
        rw [length_stretches] at later ⊢
        rw [tokens_found family]
        by_cases same : other = hole
        · subst same
          rw [split_found (family.filled other), List.length_cons,
            List.countP_cons_of_pos (by simp [isHole]), later]
        · rw [length_split_other family same, List.countP_cons_of_neg (by simp [isHole, same]),
            later]
      · cases text with
        | nil => rfl
        | cons c rest =>
            have plain : ∀ other, ¬ needle other <+: c :: rest := by
              rintro other ⟨tail, whole⟩
              exact found ⟨other, tail, whole.symm⟩
            have later := ih rest.length (by simp) rest rfl
            rw [length_stretches] at later ⊢
            rw [tokens_plain plain, List.countP_cons_of_neg (by simp [isHole]), split, splitFrom,
              if_neg (plain hole ∘ List.isPrefixOf_iff_prefix.mp), List.length_modifyHead]
            exact later

/-! One hole after the other. -/

section Stages

variable (needle value : ι → List α) (holes : List ι)

-- The text of a hole when some holes have their values.
def put (before : List ι) (hole : ι) : List α :=
  if hole ∈ before then value hole else needle hole

def replaced (before : List ι) (template : List α) : List α :=
  before.foldl (fun text hole => replace (needle hole) (value hole) text) template

-- No stretch of the template between its holes of one kind spells a hole of that kind.
def Unspelled (template : List α) (before : List ι) (hole : ι) : Prop :=
  ∀ stretch ∈ stretches hole (tokens needle holes template),
    ¬ needle hole <:+: fill (put needle value before) stretch

def AtEach (order : List ι) (holds : List ι → ι → Prop) : Prop :=
  ∀ before hole after, order = before ++ hole :: after → holds before hole

end Stages

section Each

variable {needle value : ι → List α} {holes : List ι}

omit [DecidableEq ι] in
theorem atEach_concat {order : List ι} {last : ι} {holds : List ι → ι → Prop} :
    AtEach (order ++ [last]) holds ↔ AtEach order holds ∧ holds order last := by
  constructor
  · intro each
    constructor
    · rintro before hole after rfl
      exact each before hole (after ++ [last]) (by simp)
    · exact each order last [] rfl
  · rintro ⟨each, ends⟩ before hole after whole
    rcases List.eq_nil_or_concat after with rfl | ⟨middle, other, rfl⟩
    · have ⟨same, equal⟩ := List.append_inj' whole rfl
      obtain rfl : last = hole := by simpa using equal
      exact same ▸ ends
    · have cut : order ++ [last] = (before ++ hole :: middle) ++ [other] := by simpa using whole
      exact each before hole middle (List.append_inj' cut rfl).1

omit [DecidableEq ι] in
theorem atEach_map {Entry : Type} {order : List ι} {entry : ι → Entry}
    {holds : List Entry → Entry → Prop} :
    AtEach (order.map entry) holds ↔
      AtEach order fun before hole => holds (before.map entry) (entry hole) := by
  constructor
  · rintro each before hole after rfl
    exact each (before.map entry) (entry hole) (after.map entry) (by simp)
  · intro each before found after whole
    obtain ⟨first, rest, rfl, rfl, named⟩ := List.map_eq_append_iff.mp whole
    obtain ⟨hole, last, rfl, rfl, rfl⟩ := List.map_eq_cons_iff.mp named
    exact each first hole last rfl

omit [DecidableEq α] in
theorem length_flatMap_singles (parts : List (List α)) {cut : List α → List (List α)}
    (present : ∀ part, cut part ≠ []) :
    parts.length ≤ (parts.flatMap cut).length ∧
      ((parts.flatMap cut).length = parts.length ↔ ∀ part ∈ parts, (cut part).length = 1) := by
  induction parts with
  | nil => simp
  | cons part parts ih =>
      have some := List.length_pos_iff.mpr (present part)
      rw [List.forall_mem_cons, ← ih.2, List.flatMap_cons, List.length_append, List.length_cons]
      omega

omit [DecidableEq α] in
theorem fill_put {before : List ι} {hole : ι} (fresh : hole ∉ before) (tokens : List (α ⊕ ι)) :
    fill (put needle value before) tokens =
      (needle hole).intercalate ((stretches hole tokens).map (fill (put needle value before))) := by
  have kept : put needle value before hole = needle hole := if_neg fresh
  rw [← kept]
  exact fill_stretches (fun _ _ => rfl) tokens

omit [DecidableEq α] in
theorem fill_put_concat {before : List ι} {hole : ι} (tokens : List (α ⊕ ι)) :
    fill (put needle value (before ++ [hole])) tokens =
      (value hole).intercalate ((stretches hole tokens).map (fill (put needle value before))) := by
  have given : put needle value (before ++ [hole]) hole = value hole := if_pos (by simp)
  rw [← given]
  apply fill_stretches
  intro other apart
  simp [put, apart]

omit [DecidableEq α] in
theorem stretches_present (hole : ι) (tokens : List (α ⊕ ι)) :
    (stretches hole tokens).map (fill (put needle value before)) ≠ [] := by
  simp [stretches, List.splitOnP_ne_nil]

theorem occurrences_put (family : Family needle holes) {before : List ι} {hole : ι}
    (fresh : hole ∉ before) (template : List α) :
    occurrences (needle hole) (fill (put needle value before) (tokens needle holes template)) =
        occurrences (needle hole) template ↔
      Unspelled needle value holes template before hole := by
  have own := length_split_tokens family hole template
  have some := List.length_pos_iff.mpr (split_ne_nil (needle hole) template)
  have ⟨least, single⟩ := length_flatMap_singles
    ((stretches hole (tokens needle holes template)).map (fill (put needle value before)))
    (split_ne_nil (needle hole))
  rw [List.length_map, ← own] at least single
  rw [List.forall_mem_map] at single
  rw [occurrences, occurrences, fill_put fresh, split_intercalate (family.separate hole hole)
    (family.filled hole) (stretches_present hole _), Unspelled,
    ← forall₂_congr fun stretch _ => split_clear_iff (family.separate hole hole)
      (family.filled hole) (fill (put needle value before) stretch), ← single]
  omega

theorem replace_put (family : Family needle holes) {before : List ι} {hole : ι}
    (fresh : hole ∉ before) {template : List α}
    (clear : Unspelled needle value holes template before hole) :
    replace (needle hole) (value hole)
        (fill (put needle value before) (tokens needle holes template)) =
      fill (put needle value (before ++ [hole])) (tokens needle holes template) := by
  have whole : ((stretches hole (tokens needle holes template)).map
      (fill (put needle value before))).flatMap (split (needle hole)) =
      (stretches hole (tokens needle holes template)).map (fill (put needle value before)) := by
    rw [List.flatMap_map]
    have single : ∀ stretch ∈ stretches hole (tokens needle holes template),
        split (needle hole) (fill (put needle value before) stretch) =
          [fill (put needle value before) stretch] :=
      fun stretch member => split_clear (clear stretch member)
    rw [List.flatMap_congr single, ← List.map_eq_flatMap]
  rw [replace, fill_put fresh, split_intercalate (family.separate hole hole)
    (family.filled hole) (stretches_present hole _), whole, fill_put_concat]

/-- Putting the values in one kind of hole after the other puts them all in at once, and searches
for no other holes than those of the template, just when nothing put in spells a later one. -/
theorem replaced_at_once (family : Family needle holes) (value : ι → List α) {order : List ι}
    (distinct : order.Nodup) (template : List α) :
    (AtEach order (fun before hole =>
        occurrences (needle hole) (replaced needle value before template) =
          occurrences (needle hole) template) ↔
      AtEach order (Unspelled needle value holes template)) ∧
    (AtEach order (Unspelled needle value holes template) →
      replaced needle value order template =
        fill (put needle value order) (tokens needle holes template)) := by
  induction order using List.reverseRecOn with
  | nil =>
      constructor
      · constructor
        all_goals
          intro _ before hole after whole
          simp at whole
      · intro _
        have plain : put needle value [] = needle := by
          funext hole
          simp [put]
        rw [plain, fill_tokens family.filled]
        rfl
  | append_singleton order last ih =>
      have ⟨fresh, distinct⟩ :=
        List.nodup_cons.mp ((List.perm_append_singleton last order).nodup_iff.mp distinct)
      have ⟨counts, once⟩ := ih distinct
      rw [atEach_concat, atEach_concat, counts]
      constructor
      · apply and_congr_right
        intro clear
        rw [once clear]
        exact occurrences_put family fresh template
      · rintro ⟨clear, last⟩
        rw [replaced, List.foldl_append, List.foldl_cons, List.foldl_nil]
        rw [replaced] at once
        rw [once clear, replace_put family fresh last]

end Each

end Missive.TextReplacement
