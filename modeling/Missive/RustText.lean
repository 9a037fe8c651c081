import Mathlib.Data.List.Basic

/-! The character classes of Rust's `char` and the substring search of `str`
that the text code rests on. A text is its list of Unicode scalar values. Byte
offsets of the source become character offsets: every offset it computes lies
on a character boundary, because each searched pattern is ASCII. -/
namespace Missive.RustText

abbrev Text := List Char

/-- `char::is_whitespace`, the Unicode `White_Space` property. -/
def isWhitespace (c : Char) : Bool :=
  let n := c.toNat
  (9 ≤ n && n ≤ 13) || n == 0x20 || n == 0x85 || n == 0xA0 || n == 0x1680 ||
    (0x2000 ≤ n && n ≤ 0x200A) || n == 0x2028 || n == 0x2029 || n == 0x202F ||
    n == 0x205F || n == 0x3000

/-- `char::is_control`, the general category `Cc`. -/
def isControl (c : Char) : Bool :=
  c.toNat ≤ 0x1F || (0x7F ≤ c.toNat && c.toNat ≤ 0x9F)

def isAsciiDigit (c : Char) : Bool := 0x30 ≤ c.toNat && c.toNat ≤ 0x39

def isAsciiLowercase (c : Char) : Bool := 0x61 ≤ c.toNat && c.toNat ≤ 0x7A

def isAsciiUppercase (c : Char) : Bool := 0x41 ≤ c.toNat && c.toNat ≤ 0x5A

def isAsciiAlphanumeric (c : Char) : Bool :=
  isAsciiDigit c || isAsciiLowercase c || isAsciiUppercase c

def toAsciiLowercase (c : Char) : Char :=
  if isAsciiUppercase c then Char.ofNat (c.toNat + 32) else c

/-- `str::to_ascii_lowercase`. On characters that pass `is_ascii_alphanumeric`
it is also what `char::to_lowercase` yields. -/
def lowercase (text : Text) : Text := text.map toAsciiLowercase

/-- `str::find` for a string pattern: the least offset where the pattern starts. -/
def find : Text → Text → Option Nat
  | [], pattern => if pattern.isEmpty then some 0 else none
  | c :: rest, pattern =>
      if pattern.isPrefixOf (c :: rest) then some 0 else (find rest pattern).map (· + 1)

attribute [local simp] find

/-- `haystack.to_ascii_lowercase().find(&needle.to_ascii_lowercase())`. -/
def findAsciiCaseInsensitive (haystack needle : Text) : Option Nat :=
  find (lowercase haystack) (lowercase needle)

-- The pattern starts at `index` and nowhere before.
theorem find_first (text pattern : Text) (index : Nat) (bounded : index ≤ text.length)
    (starts : pattern <+: text.drop index)
    (fresh : ∀ earlier < index, ¬ pattern <+: text.drop earlier) :
    find text pattern = some index := by
  induction text generalizing index with
  | nil =>
      have zero : index = 0 := by simpa using bounded
      subst zero
      have empty : pattern = [] := by simpa using starts
      simp [empty]
  | cons c rest ih =>
      cases index with
      | zero => simp [List.isPrefixOf_iff_prefix.mpr (by simpa using starts)]
      | succ index =>
          have head : ¬ pattern <+: c :: rest := by simpa using fresh 0 (Nat.succ_pos index)
          have tail := ih index (by simpa using bounded) (by simpa using starts)
            (fun earlier smaller => by simpa using fresh (earlier + 1) (by omega))
          simp [List.isPrefixOf_iff_prefix, head, tail]

theorem find_none (text pattern : Text) (absent : ∀ index ≤ text.length,
    ¬ pattern <+: text.drop index) : find text pattern = none := by
  induction text with
  | nil =>
      have nonempty : pattern ≠ [] := by
        rintro rfl
        exact absent 0 (Nat.le_refl 0) List.nil_prefix
      simp [nonempty]
  | cons c rest ih =>
      have head : ¬ pattern <+: c :: rest := by simpa using absent 0 (Nat.zero_le _)
      have tail := ih (fun index bound => by
        simpa using absent (index + 1) (by simpa using bound))
      simp [List.isPrefixOf_iff_prefix, head, tail]

theorem find_bound (text pattern : Text) (index : Nat) (found : find text pattern = some index) :
    index + pattern.length ≤ text.length := by
  induction text generalizing index with
  | nil =>
      simp only [find] at found
      split at found
      · rename_i empty
        cases found
        simp [List.isEmpty_iff.mp empty]
      · contradiction
  | cons c rest ih =>
      simp only [find] at found
      split at found
      · rename_i hit
        cases found
        simpa using (List.isPrefixOf_iff_prefix.mp hit).length_le
      · obtain ⟨earlier, later, rfl⟩ := Option.map_eq_some_iff.mp found
        have := ih earlier later
        simp only [List.length_cons]
        omega

-- A prefix without the pattern only shifts the search.
theorem find_skip (word rest pattern : Text) (c : Char)
    (absent : ∀ index ≤ word.length, ¬ pattern <+: (word ++ c :: rest).drop index) :
    find (word ++ c :: rest) pattern = (find rest pattern).map (· + (word.length + 1)) := by
  induction word with
  | nil =>
      have head : ¬ pattern <+: c :: rest := absent 0 (Nat.le_refl 0)
      simp [List.isPrefixOf_iff_prefix, head]
  | cons first word ih =>
      have head : ¬ pattern <+: first :: (word ++ c :: rest) := absent 0 (Nat.zero_le _)
      have tail := ih (fun index bound => by
        simpa using absent (index + 1) (by simpa using bound))
      simp only [List.cons_append, find, List.isPrefixOf_iff_prefix, head, if_false, tail,
        Option.map_map, List.length_cons]
      rfl

/-- Two stretches free of stop characters, each closed by one, agree as soon as
one is a prefix of a text that starts with the other. -/
theorem stop_aligned (stop : Char → Bool) (left right rest : Text) (a b : Char)
    (leftFree : ∀ c ∈ left, stop c = false) (rightFree : ∀ c ∈ right, stop c = false)
    (leftStop : stop a = true) (rightStop : stop b = true) :
    (left ++ [a]) <+: (right ++ b :: rest) ↔ left = right ∧ a = b := by
  induction left generalizing right with
  | nil =>
      cases right with
      | nil => simp
      | cons c right =>
          have different : a ≠ c := by
            rintro rfl
            rw [rightFree a List.mem_cons_self] at leftStop
            contradiction
          simp [different]
  | cons d left ih =>
      cases right with
      | nil =>
          have different : d ≠ b := by
            rintro rfl
            rw [leftFree d List.mem_cons_self] at rightStop
            contradiction
          simp [different]
      | cons c right =>
          have tail := ih right (fun x member => leftFree x (List.mem_cons_of_mem d member))
            (fun x member => rightFree x (List.mem_cons_of_mem c member))
          simp only [List.cons_append, List.cons_prefix_cons, tail, List.cons.injEq, and_assoc]

-- A text splits at the first character outside a class.
theorem stretch_parts (inside : Char → Bool) (text : Text) :
    ∃ word rest, text = word ++ rest ∧ (∀ c ∈ word, inside c = true) ∧
      rest.head?.all (fun c => !inside c) = true := by
  refine ⟨text.takeWhile inside, text.dropWhile inside, ?_, ?_, ?_⟩
  · exact List.takeWhile_append_dropWhile.symm
  · intro c member
    exact List.all_eq_true.mp List.all_takeWhile c member
  · have stop := List.head?_dropWhile_not inside text
    cases found : (text.dropWhile inside).head? with
    | none => rfl
    | some c =>
        rw [found] at stop
        simp [stop]

theorem drop_takeWhile_length (inside : Char → Bool) (text : Text) :
    text.drop (text.takeWhile inside).length = text.dropWhile inside := by
  have split := @List.takeWhile_append_dropWhile _ inside text
  calc text.drop (text.takeWhile inside).length
      = (text.takeWhile inside ++ text.dropWhile inside).drop (text.takeWhile inside).length := by
        rw [split]
    _ = text.dropWhile inside := List.drop_left

theorem takeWhile_stretch (inside : Char → Bool) (word rest : Text)
    (within : ∀ c ∈ word, inside c = true)
    (stop : rest.head?.all (fun c => !inside c) = true) :
    (word ++ rest).takeWhile inside = word := by
  rw [List.takeWhile_append_of_pos within]
  cases rest with
  | nil => simp
  | cons c rest =>
      have outside : inside c = false := by simpa using stop
      simp [outside]

@[simp] theorem length_lowercase (text : Text) : (lowercase text).length = text.length := by
  simp [lowercase]

@[simp] theorem lowercase_append (first last : Text) :
    lowercase (first ++ last) = lowercase first ++ lowercase last := by
  simp [lowercase]

-- A property of the ASCII characters is a finite check over their codes.
theorem of_ascii_codes (property : Char → Prop)
    (checked : ∀ code < 128, property (Char.ofNat code)) (c : Char) (ascii : c.toNat < 128) :
    property c := by
  simpa [Char.ofNat_toNat] using checked c.toNat ascii

-- A class that does not tell the two cases of a letter apart.
theorem lowercase_keeps (inside : Char → Bool)
    (checked : ∀ code < 128, inside (toAsciiLowercase (Char.ofNat code)) = inside (Char.ofNat code))
    (c : Char) : inside (toAsciiLowercase c) = inside c := by
  by_cases ascii : c.toNat < 128
  · exact of_ascii_codes (fun c => inside (toAsciiLowercase c) = inside c) checked c ascii
  · have upper : isAsciiUppercase c = false := by
      simp only [isAsciiUppercase, Bool.and_eq_false_iff, decide_eq_false_iff_not]
      omega
    simp [toAsciiLowercase, upper]

-- For a text that is written out, checked one character at a time.
theorem absent_from {text : Text} {inside : Char → Bool} (checked : text.any inside = false) :
    ∀ c ∈ text, inside c = false := by
  intro c member
  exact eq_false_of_ne_true (List.any_eq_false.mp checked c member)

theorem lowercase_fixed (c : Char) (other : isAsciiAlphanumeric c = false) :
    toAsciiLowercase c = c := by
  have upper : isAsciiUppercase c = false := by
    cases letter : isAsciiUppercase c with
    | false => rfl
    | true => simp [isAsciiAlphanumeric, letter] at other
  simp [toAsciiLowercase, upper]

theorem alphanumeric_codes (c : Char) (plain : isAsciiAlphanumeric c = true) :
    (0x30 ≤ c.toNat ∧ c.toNat ≤ 0x39) ∨ (0x61 ≤ c.toNat ∧ c.toNat ≤ 0x7A) ∨
      (0x41 ≤ c.toNat ∧ c.toNat ≤ 0x5A) := by
  simpa [isAsciiAlphanumeric, isAsciiDigit, isAsciiLowercase, isAsciiUppercase, or_assoc]
    using plain

theorem alphanumeric_not_whitespace (c : Char) (plain : isAsciiAlphanumeric c = true) :
    isWhitespace c = false := by
  have codes := alphanumeric_codes c plain
  simp only [isWhitespace, Bool.or_eq_false_iff, Bool.and_eq_false_iff, decide_eq_false_iff_not,
    beq_eq_false_iff_ne, ne_eq]
  omega

end Missive.RustText
