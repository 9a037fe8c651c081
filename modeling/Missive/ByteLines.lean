import Mathlib.Data.List.Basic
import Mathlib.Data.String.Basic

/-! Reading bytes line by line. A line goes up to its line feed and keeps it; what follows the last
line feed is a line of its own. UTF-8 uses the byte of a line feed for nothing else. -/
namespace Missive.ByteLines

def utf8 (text : List Char) : List UInt8 := text.flatMap String.utf8EncodeChar

def decode (bytes : List UInt8) : Option String := String.fromUTF8? bytes.toByteArray

def lineFeed : UInt8 := 10

def lines : List UInt8 → List (List UInt8)
  | [] => []
  | byte :: rest =>
      if byte = lineFeed then [byte] :: lines rest
      else
        match lines rest with
        | [] => [[byte]]
        | line :: later => (byte :: line) :: later

@[simp] theorem utf8_append (first last : List Char) :
    utf8 (first ++ last) = utf8 first ++ utf8 last := List.flatMap_append

theorem decode_utf8 (text : List Char) : decode (utf8 text) = some (String.ofList text) := by
  have encoded : (utf8 text).toByteArray = (String.ofList text).toByteArray := rfl
  rw [decode, encoded, String.fromUTF8?]
  split
  · rfl
  · rename_i invalid
    exact absurd (String.ofList text).isValidUTF8 (by simpa using invalid)

theorem utf8_toByteArray (text : String) : (utf8 text.toList).toByteArray = text.toByteArray := by
  have encoded : (utf8 text.toList).toByteArray = (String.ofList text.toList).toByteArray := rfl
  rw [encoded, String.ofList_toList]

theorem utf8_length (text : String) : (utf8 text.toList).length = text.utf8ByteSize := by
  rw [← List.size_toByteArray, utf8_toByteArray]
  rfl

theorem utf8_decoded {bytes : List UInt8} {text : String} (decoded : decode bytes = some text) :
    utf8 text.toList = bytes := by
  rw [decode, String.fromUTF8?] at decoded
  split at decoded
  · cases decoded
    exact List.toByteArray_inj.mp (utf8_toByteArray _)
  · cases decoded

theorem toList_from (bytes : ByteArray) (index : Nat) (read : List UInt8) :
    ByteArray.toList.loop bytes index read = read.reverse ++ bytes.data.toList.drop index := by
  induction index, read using ByteArray.toList.loop.induct bytes with
  | case1 index read inside ih =>
      have there : index < bytes.data.toList.length := by simpa using inside
      have byte : bytes.get! index = bytes.data.toList[index] :=
        getElem!_pos bytes.data index inside
      rw [ByteArray.toList.loop, if_pos inside, ih, List.drop_eq_getElem_cons there, byte]
      simp
  | case2 index read past =>
      have none : bytes.data.toList.length ≤ index := by simpa using past
      rw [ByteArray.toList.loop, if_neg past, List.drop_eq_nil_of_le none, List.append_nil]

theorem toUTF8_toList (text : String) : text.toUTF8.toList = utf8 text.toList := by
  have whole : text.toUTF8.toList = text.toUTF8.data.toList := toList_from _ 0 []
  rw [whole]
  change text.toByteArray.data.toList = _
  rw [← utf8_toByteArray]
  simp [List.data_toByteArray]

-- All bytes of a longer encoding are from 128 on.
theorem ascii_in_encoding {byte : UInt8} (ascii : byte.toNat < 0x80) {c : Char}
    (member : byte ∈ String.utf8EncodeChar c) : c.toNat = byte.toNat := by
  have code (n : Nat) (same : byte = UInt8.ofNat n) : byte.toNat = n % 2 ^ 8 := by
    rw [same]
    exact UInt8.toNat_ofNat'
  unfold String.utf8EncodeChar at member
  dsimp only at member
  split_ifs at member with one two three
  · rw [List.mem_singleton] at member
    have value : c.val.toNat = c.toNat := rfl
    have := code _ member
    omega
  · simp only [List.mem_cons, List.not_mem_nil, or_false] at member
    rcases member with first | second
    · exact absurd (code _ first) (by omega)
    · exact absurd (code _ second) (by omega)
  · simp only [List.mem_cons, List.not_mem_nil, or_false] at member
    rcases member with first | second | third
    · exact absurd (code _ first) (by omega)
    · exact absurd (code _ second) (by omega)
    · exact absurd (code _ third) (by omega)
  · simp only [List.mem_cons, List.not_mem_nil, or_false] at member
    rcases member with first | second | third | fourth
    · exact absurd (code _ first) (by omega)
    · exact absurd (code _ second) (by omega)
    · exact absurd (code _ third) (by omega)
    · exact absurd (code _ fourth) (by omega)

theorem ascii_free {c : Char} (ascii : c.toNat < 0x80) {text : List Char} (free : c ∉ text) :
    UInt8.ofNat c.toNat ∉ utf8 text := by
  intro member
  have code : (UInt8.ofNat c.toNat).toNat = c.toNat := by
    have wrapped : (UInt8.ofNat c.toNat).toNat = c.toNat % 2 ^ 8 := UInt8.toNat_ofNat'
    omega
  obtain ⟨other, listed, encoded⟩ := List.mem_flatMap.mp member
  have same := ascii_in_encoding (by omega) encoded
  rw [code] at same
  rw [Char.toNat_inj.mp same] at listed
  exact free listed

theorem utf8_injective {left right : List Char} (same : utf8 left = utf8 right) : left = right := by
  have texts := decode_utf8 left
  rw [same, decode_utf8] at texts
  exact (String.ofList_injective (Option.some.inj texts)).symm

theorem lineFeed_free {text : List Char} (free : '\n' ∉ text) : lineFeed ∉ utf8 text :=
  ascii_free (by decide) free

theorem lines_cons {line rest : List UInt8} (free : lineFeed ∉ line) :
    lines (line ++ lineFeed :: rest) = (line ++ [lineFeed]) :: lines rest := by
  induction line with
  | nil => simp [lines]
  | cons byte line ih =>
      have parts : ¬byte = lineFeed ∧ lineFeed ∉ line := by
        simpa [eq_comm] using free
      rw [List.cons_append, lines, if_neg parts.1, ih parts.2]
      rfl

theorem lines_texts {texts : List (List Char)} (free : ∀ text ∈ texts, '\n' ∉ text) :
    lines (utf8 (texts.flatMap fun text => text ++ ['\n'])) =
      texts.map fun text => utf8 (text ++ ['\n']) := by
  induction texts with
  | nil => rfl
  | cons text rest ih =>
      have first := lineFeed_free (free text List.mem_cons_self)
      have later := ih fun other member => free other (List.mem_cons_of_mem text member)
      have feed : utf8 ['\n'] = [lineFeed] := rfl
      rw [List.flatMap_cons, utf8_append, utf8_append, feed, List.append_assoc,
        List.singleton_append, lines_cons first, later, List.map_cons, utf8_append, feed]

end Missive.ByteLines
