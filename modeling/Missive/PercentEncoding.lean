import Mathlib.Data.List.DropRight
import Missive.ByteLines

/-! Percent-encoding, the serialization of form bytes, and the path of a URL as its segments: dot
segments, also those that are spelled with escapes, are taken out. -/
namespace Missive.PercentEncoding

open ByteLines

def hexDigit (value : Nat) : Char :=
  Char.ofNat (if value < 10 then 0x30 + value else 0x41 + (value - 10))

def hexValue (c : Char) : Option Nat :=
  let code := c.toNat
  if 0x30 ≤ code ∧ code ≤ 0x39 then some (code - 0x30)
  else if 0x41 ≤ code ∧ code ≤ 0x46 then some (code - 0x41 + 10)
  else if 0x61 ≤ code ∧ code ≤ 0x66 then some (code - 0x61 + 10)
  else none

-- The bytes that `application/x-www-form-urlencoded` leaves as they are.
def unescaped (byte : UInt8) : Bool :=
  let code := byte.toNat
  code == 0x2A || code == 0x2D || code == 0x2E || code == 0x5F || (0x30 ≤ code && code ≤ 0x39) ||
    (0x41 ≤ code && code ≤ 0x5A) || (0x61 ≤ code && code ≤ 0x7A)

def serializeByte (byte : UInt8) : List Char :=
  if byte = 0x20 then ['+']
  else if unescaped byte then [Char.ofNat byte.toNat]
  else ['%', hexDigit (byte.toNat / 16), hexDigit (byte.toNat % 16)]

def byteSerialize (bytes : List UInt8) : List Char := bytes.flatMap serializeByte

def escapedByte (high low : Char) : Option UInt8 :=
  match hexValue high, hexValue low with
  | some high, some low => some (UInt8.ofNat (16 * high + low))
  | _, _ => none

-- A percent sign that two hexadecimal digits do not follow stands for itself.
def percentDecode : List Char → List UInt8
  | [] => []
  | '%' :: high :: low :: rest =>
      match escapedByte high low with
      | some byte => byte :: percentDecode rest
      | none => 0x25 :: percentDecode (high :: low :: rest)
  | c :: rest => String.utf8EncodeChar c ++ percentDecode rest

theorem hexValue_hexDigit (value : Nat) (small : value < 16) :
    hexValue (hexDigit value) = some value := by
  have checked : ∀ value < 16, hexValue (hexDigit value) = some value := by decide
  exact checked value small

theorem percentDecode_cons {c : Char} (plain : c ≠ '%') (rest : List Char) :
    percentDecode (c :: rest) = String.utf8EncodeChar c ++ percentDecode rest := by
  rw [percentDecode.eq_def]
  split
  · contradiction
  · rename_i same
    cases same
    contradiction
  · rename_i same
    cases same
    rfl

theorem unescaped_bound {byte : UInt8} (plain : unescaped byte = true) :
    byte.toNat < 0x80 ∧ byte.toNat ≠ 0x25 ∧ byte.toNat ≠ 0x2F := by
  simp only [unescaped, Bool.or_eq_true, beq_iff_eq, Bool.and_eq_true, decide_eq_true_eq] at plain
  omega

theorem ascii_code {code : Nat} (ascii : code < 0x80) : (Char.ofNat code).toNat = code := by
  have checked : ∀ code < 0x80, (Char.ofNat code).toNat = code := by decide
  exact checked code ascii

theorem ascii_encoded {byte : UInt8} (ascii : byte.toNat < 0x80) :
    String.utf8EncodeChar (Char.ofNat byte.toNat) = [byte] := by
  have code : (Char.ofNat byte.toNat).val.toNat = byte.toNat := ascii_code ascii
  unfold String.utf8EncodeChar
  simp only [code]
  rw [if_pos (by omega), UInt8.ofNat_toNat]

theorem percentDecode_byte {byte : UInt8} (solid : byte ≠ 0x20) (rest : List Char) :
    percentDecode (serializeByte byte ++ rest) = byte :: percentDecode rest := by
  rw [serializeByte, if_neg solid]
  by_cases plain : unescaped byte = true
  · have bound := unescaped_bound plain
    have other : Char.ofNat byte.toNat ≠ '%' := by
      intro same
      have codes := congrArg Char.toNat same
      rw [ascii_code bound.1] at codes
      exact bound.2.1 codes
    rw [if_pos plain, List.singleton_append, percentDecode_cons other, ascii_encoded bound.1]
    rfl
  · have small := byte.toNat_lt
    have high := hexValue_hexDigit (byte.toNat / 16) (by omega)
    have low := hexValue_hexDigit (byte.toNat % 16) (by omega)
    have whole : 16 * (byte.toNat / 16) + byte.toNat % 16 = byte.toNat := by omega
    rw [if_neg plain, List.cons_append, List.cons_append, List.singleton_append, percentDecode,
      escapedByte, high, low]
    simp only [whole, UInt8.ofNat_toNat]

theorem percentDecode_serialize {bytes : List UInt8} (solid : (0x20 : UInt8) ∉ bytes)
    (rest : List Char) :
    percentDecode (byteSerialize bytes ++ rest) = bytes ++ percentDecode rest := by
  induction bytes with
  | nil => rfl
  | cons byte bytes ih =>
      rw [List.mem_cons, not_or] at solid
      rw [byteSerialize, List.flatMap_cons, List.append_assoc,
        percentDecode_byte (Ne.symm solid.1)]
      exact congrArg (byte :: ·) (ih solid.2)

-- What is left in a serialization: letters, digits and a few signs.
def isSerialized (c : Char) : Bool :=
  let code := c.toNat
  code == 0x25 || code == 0x2A || code == 0x2B || code == 0x2D || code == 0x2E || code == 0x5F ||
    (0x30 ≤ code && code ≤ 0x39) || (0x41 ≤ code && code ≤ 0x5A) || (0x61 ≤ code && code ≤ 0x7A)

theorem hexDigit_serialized {value : Nat} (small : value < 16) :
    isSerialized (hexDigit value) = true := by
  have checked : ∀ value < 16, isSerialized (hexDigit value) = true := by decide
  exact checked value small

theorem serialized (bytes : List UInt8) : ∀ c ∈ byteSerialize bytes, isSerialized c = true := by
  intro c member
  obtain ⟨byte, _, written⟩ := List.mem_flatMap.mp member
  rw [serializeByte] at written
  split_ifs at written with space plain
  · rw [List.mem_singleton] at written
    rw [written]
    decide
  · have bound := unescaped_bound plain
    rw [List.mem_singleton] at written
    rw [written]
    simp only [unescaped, Bool.or_eq_true, beq_iff_eq, Bool.and_eq_true, decide_eq_true_eq] at plain
    simp only [isSerialized, ascii_code bound.1, Bool.or_eq_true, beq_iff_eq, Bool.and_eq_true,
      decide_eq_true_eq]
    omega
  · have small := byte.toNat_lt
    simp only [List.mem_cons, List.not_mem_nil, or_false] at written
    rcases written with rfl | rfl | rfl
    · decide
    · exact hexDigit_serialized (by omega)
    · exact hexDigit_serialized (by omega)

/-! Paths. -/

def path (segments : List (List Char)) : List Char := segments.flatMap fun segment => '/' :: segment

def singleDot (segment : List Char) : Bool := percentDecode segment == [0x2E]

def doubleDot (segment : List Char) : Bool := percentDecode segment == [0x2E, 0x2E]

-- A dot segment at the end leaves an empty segment.
def resolve (stack : List (List Char)) : List (List Char) → List (List Char)
  | [] => stack
  | segment :: rest =>
      if singleDot segment then
        if rest.isEmpty then stack ++ [[]] else resolve stack rest
      else if doubleDot segment then
        if rest.isEmpty then stack.dropLast ++ [[]] else resolve stack.dropLast rest
      else resolve (stack ++ [segment]) rest

attribute [local simp] resolve

def trimmed (segments : List (List Char)) : List (List Char) := segments.rdropWhile List.isEmpty

@[simp] theorem path_append (first last : List (List Char)) :
    path (first ++ last) = path first ++ path last := List.flatMap_append

theorem path_singleton (segment : List Char) : path [segment] = '/' :: segment :=
  List.flatMap_singleton _ _

-- Cutting the slashes at the end of a text cuts the empty segments at the end of its path.
theorem trim_path {origin : List Char} (closed : origin.getLast? ≠ some '/')
    {segments : List (List Char)} (parts : ∀ segment ∈ segments, '/' ∉ segment) :
    (origin ++ path segments).rdropWhile (fun c => c == '/') = origin ++ path (trimmed segments) := by
  induction segments using List.reverseRecOn with
  | nil =>
      have kept : origin.rdropWhile (fun c => c == '/') = origin := by
        rw [List.rdropWhile_eq_self_iff]
        intro filled
        rw [List.getLast?_eq_some_getLast filled] at closed
        simpa using closed
      simpa [path, trimmed] using kept
  | append_singleton segments segment ih =>
      rw [List.forall_mem_append, List.forall_mem_singleton] at parts
      cases segment with
      | nil =>
          have shorter : trimmed (segments ++ [[]]) = trimmed segments :=
            List.rdropWhile_concat_pos _ _ _ rfl
          have longer : origin ++ path (segments ++ [[]]) = (origin ++ path segments) ++ ['/'] := by
            rw [path_append, path_singleton, List.append_assoc]
          rw [shorter, longer, List.rdropWhile_concat_pos _ _ _ (by decide)]
          exact ih parts.1
      | cons c rest =>
          have same : trimmed (segments ++ [c :: rest]) = segments ++ [c :: rest] :=
            List.rdropWhile_concat_neg _ _ _ (by simp)
          rw [same, List.rdropWhile_eq_self_iff]
          intro filled
          have whole : origin ++ path (segments ++ [c :: rest]) =
              (origin ++ path segments ++ ['/']) ++ (c :: rest) := by
            rw [path_append, path_singleton]
            simp
          have last : (origin ++ path (segments ++ [c :: rest])).getLast filled =
              (c :: rest).getLast (List.cons_ne_nil c rest) := by
            simp only [whole, List.getLast_append_of_ne_nil _ (List.cons_ne_nil c rest)]
          rw [last]
          intro slash
          have member := List.getLast_mem (List.cons_ne_nil c rest)
          rw [beq_iff_eq.mp slash] at member
          exact parts.2 member

theorem resolve_append {first : List (List Char)}
    (plain : ∀ segment ∈ first, singleDot segment = false ∧ doubleDot segment = false)
    (rest stack : List (List Char)) :
    resolve stack (first ++ rest) = resolve (stack ++ first) rest := by
  induction first generalizing stack with
  | nil => simp
  | cons segment first ih =>
      rw [List.forall_mem_cons] at plain
      rw [List.cons_append, resolve, plain.1.1, plain.1.2, if_neg Bool.false_ne_true,
        if_neg Bool.false_ne_true, ih plain.2, List.append_assoc, List.singleton_append]

theorem resolve_plain {segments : List (List Char)}
    (plain : ∀ segment ∈ segments, singleDot segment = false ∧ doubleDot segment = false)
    (stack : List (List Char)) : resolve stack segments = stack ++ segments := by
  have whole := resolve_append plain [] stack
  rwa [List.append_nil] at whole

theorem resolve_length {segments : List (List Char)} (filled : segments ≠ [])
    (stack : List (List Char)) :
    (resolve stack segments).length ≤ stack.length + segments.length := by
  induction segments generalizing stack with
  | nil => contradiction
  | cons segment rest ih =>
      rw [resolve]
      by_cases last : rest = []
      · subst last
        rw [if_pos List.isEmpty_nil, if_pos List.isEmpty_nil]
        split_ifs <;> simp
      · have solid : ¬rest.isEmpty = true := by simpa using last
        rw [if_neg solid, if_neg solid]
        have same := ih last stack
        have shorter := ih last stack.dropLast
        have longer := ih last (stack ++ [segment])
        simp only [List.length_dropLast, List.length_append, List.length_cons, List.length_nil]
          at same shorter longer ⊢
        split_ifs <;> omega

-- A dot segment before the end costs its place.
theorem resolve_dotted {segment : List Char} {rest : List (List Char)} (filled : rest ≠ [])
    (dotted : singleDot segment = true ∨ doubleDot segment = true) (stack : List (List Char)) :
    (resolve stack (segment :: rest)).length ≤ stack.length + rest.length := by
  have solid : ¬rest.isEmpty = true := by simpa using filled
  have same := resolve_length filled stack
  have shorter := resolve_length filled stack.dropLast
  rw [List.length_dropLast] at shorter
  rw [resolve, if_neg solid, if_neg solid]
  split_ifs with single double
  · exact same
  · omega
  · simp [single, double] at dotted

theorem resolve_all {keep : List Char → Prop} (empty : keep []) {segments : List (List Char)}
    (kept : ∀ segment ∈ segments, singleDot segment = false → doubleDot segment = false →
      keep segment)
    {stack : List (List Char)} (stacked : ∀ segment ∈ stack, keep segment) :
    ∀ segment ∈ resolve stack segments, keep segment := by
  induction segments generalizing stack with
  | nil => exact stacked
  | cons segment rest ih =>
      rw [List.forall_mem_cons] at kept
      have shorter : ∀ segment ∈ stack.dropLast, keep segment := fun segment member =>
        stacked segment (List.dropLast_subset stack member)
      rw [resolve]
      split_ifs with single last double last'
      · rw [List.forall_mem_append, List.forall_mem_singleton]
        exact ⟨stacked, empty⟩
      · exact ih kept.2 stacked
      · rw [List.forall_mem_append, List.forall_mem_singleton]
        exact ⟨shorter, empty⟩
      · exact ih kept.2 shorter
      · apply ih kept.2
        rw [List.forall_mem_append, List.forall_mem_singleton]
        exact ⟨stacked, kept.1 (eq_false_of_ne_true single) (eq_false_of_ne_true double)⟩

theorem path_split {segments : List (List Char)} (filled : segments ≠ [])
    (parts : ∀ segment ∈ segments, '/' ∉ segment) :
    ∃ rest, path segments = '/' :: rest ∧ rest.splitOn '/' = segments := by
  refine ⟨['/'].intercalate segments, ?_, List.splitOn_intercalate '/' parts filled⟩
  induction segments with
  | nil => contradiction
  | cons segment rest ih =>
      cases rest with
      | nil => simp [path, List.intercalate]
      | cons next rest =>
          have later := ih nofun fun other member => parts other (List.mem_cons_of_mem _ member)
          have whole : path (segment :: next :: rest) = '/' :: segment ++ path (next :: rest) := rfl
          rw [whole, later]
          simp [List.intercalate, List.intersperse]

end Missive.PercentEncoding
