import Mathlib.Algebra.GroupWithZero.Nat
import Mathlib.Data.List.DropRight
import Mathlib.Data.List.Forall2
import Missive.ByteLines
import Missive.Core

/-! Server-sent events, as `read_sse_records` reads them off the body of a response. The callback is
any function of what it has been given so far: a closure keeps what it wants of earlier records. A
sum of lengths that would saturate is beyond the limit as well, so the counter is a natural number. -/
namespace Missive.SseRecords

open RustText Missive.Core ByteLines

structure SseRecord where
  eventType : Option String
  data : String
  deriving DecidableEq

def maxSseEventDataBytes : Nat := 16 * 1024 * 1024

-- What is read of the event that is not complete yet.
structure Pending where
  eventType : Option String
  dataLines : List String
  dataBytes : Nat

def Pending.none : Pending := ⟨.none, [], 0⟩

structure Reading where
  pending : Pending
  delivered : List SseRecord

-- The bytes of a response up to its end, or up to where a read fails.
structure Body where
  bytes : List UInt8
  fails : Bool

-- What `read_line` returns of a body, one line after the other.
def Body.lines (body : Body) : List (List UInt8) :=
  if body.fails then (ByteLines.lines body.bytes).takeWhile fun line => line.getLast? = some lineFeed
  else ByteLines.lines body.bytes

def trimEnd (line : Text) : Text := line.rdropWhile fun c => c == '\r' || c == '\n'

def stripSpace : Text → Text
  | ' ' :: value => value
  | value => value

-- `split_once(':')`, with no value where there is no colon.
def fieldName (line : Text) : Text := line.takeWhile fun c => c != ':'

def fieldValue (line : Text) : Text := stripSpace ((line.dropWhile fun c => c != ':').drop 1)

abbrev Outcome := Reading × Except MissiveError Unit

section Read

variable (endpoint : String) (onRecord : List SseRecord → Except MissiveError Unit)

def readFailure : MissiveError :=
  MissiveError.transport s!"reading A2A SSE stream from {endpoint} failed"

def limitExceeded : MissiveError :=
  MissiveError.protocol
    s!"A2A SSE event from {endpoint} exceeds the {maxSseEventDataBytes} byte data limit"

def dispatchSseRecord (reading : Reading) : Outcome :=
  if reading.pending.dataLines.isEmpty then (⟨.none, reading.delivered⟩, .ok ())
  else
    let record : SseRecord :=
      ⟨reading.pending.eventType, "\n".intercalate reading.pending.dataLines⟩
    let delivered := reading.delivered ++ [record]
    (⟨.none, delivered⟩, onRecord delivered)

def readField (pending : Pending) (name : Text) (value : String) :
    Pending × Except MissiveError Unit :=
  if name = "event".toList then ({ pending with eventType := some value }, .ok ())
  else if name = "data".toList then
    let dataBytes := pending.dataBytes + value.utf8ByteSize
    if maxSseEventDataBytes < dataBytes then
      ({ pending with dataBytes := dataBytes }, .error (limitExceeded endpoint))
    else ({ pending with dataLines := pending.dataLines ++ [value], dataBytes := dataBytes }, .ok ())
  else (pending, .ok ())

def readFieldLine (reading : Reading) (fieldLine : Text) : Outcome :=
  if fieldLine.isEmpty then dispatchSseRecord onRecord reading
  else if fieldLine.head? = some ':' then (reading, .ok ())
  else
    let read := readField endpoint reading.pending (fieldName fieldLine)
      (String.ofList (fieldValue fieldLine))
    ({ reading with pending := read.1 }, read.2)

def readSseLines (reading : Reading) : List (List UInt8) → Outcome
  | [] => (reading, .ok ())
  | bytes :: rest =>
      match decode bytes with
      | none => (reading, .error (readFailure endpoint))
      | some line =>
          match readFieldLine endpoint onRecord reading (trimEnd line.toList) with
          | (after, .ok ()) => readSseLines after rest
          | (after, .error error) => (after, .error error)

def readSseRecords (body : Body) : Outcome :=
  match readSseLines endpoint onRecord ⟨.none, []⟩ body.lines with
  | (after, .ok ()) =>
      if body.fails then (after, .error (readFailure endpoint))
      else dispatchSseRecord onRecord after
  | (after, .error error) => (after, .error error)

end Read

/-! What an encoding of events is. -/

def Plain (text : Text) : Prop := '\r' ∉ text ∧ '\n' ∉ text

structure SseEvent where
  eventType : Option String
  dataLines : List String
  filled : dataLines ≠ []
  plainType : ∀ text, eventType = some text → Plain text.toList
  plainData : ∀ line ∈ dataLines, Plain line.toList
  bounded : (dataLines.map String.utf8ByteSize).sum ≤ maxSseEventDataBytes

def SseEvent.record (event : SseEvent) : SseRecord :=
  ⟨event.eventType, "\n".intercalate event.dataLines⟩

inductive FieldLine (name : String) (value : String) : Text → Prop
  | spaced : FieldLine name value (name.toList ++ ':' :: ' ' :: value.toList)
  | tight (solid : value.toList.head? ≠ some ' ') :
      FieldLine name value (name.toList ++ ':' :: value.toList)

inductive Noise : Text → Prop
  | comment {text : Text} (plain : Plain text) : Noise (':' :: text)
  | field {name value : Text} (filled : name ≠ []) (plain : Plain name) (plainValue : Plain value)
      (uncut : ':' ∉ name) (unknown : name ≠ "event".toList ∧ name ≠ "data".toList) :
      Noise (name ++ ':' :: value)
  | bare {name : Text} (filled : name ≠ []) (plain : Plain name) (uncut : ':' ∉ name)
      (unknown : name ≠ "event".toList ∧ name ≠ "data".toList) : Noise name

inductive Interleaved : List Text → List Text → Prop
  | nil : Interleaved [] []
  | kept {line : Text} {wanted lines : List Text} (rest : Interleaved wanted lines) :
      Interleaved (line :: wanted) (line :: lines)
  | noise {line : Text} {wanted lines : List Text} (noise : Noise line)
      (rest : Interleaved wanted lines) : Interleaved wanted (line :: lines)

inductive TypeLine : Option String → List Text → Prop
  | none : TypeLine none []
  | some {value : String} {line : Text} (field : FieldLine "event" value line) :
      TypeLine (some value) [line]

def EventLines (event : SseEvent) (lines : List Text) : Prop :=
  ∃ typeLine dataLines, TypeLine event.eventType typeLine ∧
    List.Forall₂ (FieldLine "data") event.dataLines dataLines ∧
    Interleaved (typeLine ++ dataLines) lines

-- The last blank line may be missing.
inductive Encodes : List SseEvent → List Text → Prop
  | ended {lines : List Text} (noise : ∀ line ∈ lines, Noise line) : Encodes [] lines
  | unclosed {event : SseEvent} {lines : List Text} (encoded : EventLines event lines) :
      Encodes [event] lines
  | closed {event : SseEvent} {events : List SseEvent} {lines later : List Text}
      (encoded : EventLines event lines) (rest : Encodes events later) :
      Encodes (event :: events) (lines ++ [] :: later)

inductive LineEnding where
  | lf
  | crlf

def LineEnding.text : LineEnding → Text
  | .lf => ['\n']
  | .crlf => ['\r', '\n']

def rendered (lines : List (Text × LineEnding)) : Body where
  bytes := utf8 (lines.flatMap fun line => line.1 ++ line.2.text)
  fails := false

-- Records given to the callback one after the other, until it refuses one.
def deliver (onRecord : List SseRecord → Except MissiveError Unit) (delivered : List SseRecord) :
    List SseRecord → List SseRecord × Except MissiveError Unit
  | [] => (delivered, .ok ())
  | record :: rest =>
      match onRecord (delivered ++ [record]) with
      | .ok () => deliver onRecord (delivered ++ [record]) rest
      | .error error => (delivered ++ [record], .error error)

/-! What one line does. -/

section Lines

variable {endpoint : String} {onRecord : List SseRecord → Except MissiveError Unit}

-- The lines once they are decoded and their endings are cut off.
def readTexts (endpoint : String) (onRecord : List SseRecord → Except MissiveError Unit)
    (reading : Reading) : List Text → Outcome
  | [] => (reading, .ok ())
  | line :: rest =>
      match readFieldLine endpoint onRecord reading line with
      | (after, .ok ()) => readTexts endpoint onRecord after rest
      | (after, .error error) => (after, .error error)

attribute [local simp] readTexts

theorem readTexts_cons {reading after : Reading} {line : Text} (rest : List Text)
    (read : readFieldLine endpoint onRecord reading line = (after, .ok ())) :
    readTexts endpoint onRecord reading (line :: rest) = readTexts endpoint onRecord after rest := by
  rw [readTexts, read]

theorem readTexts_append {reading after : Reading} {first : List Text} (later : List Text)
    (read : readTexts endpoint onRecord reading first = (after, .ok ())) :
    readTexts endpoint onRecord reading (first ++ later) =
      readTexts endpoint onRecord after later := by
  induction first generalizing reading with
  | nil =>
      cases read
      rfl
  | cons line rest ih =>
      rw [readTexts] at read
      cases next : readFieldLine endpoint onRecord reading line with
      | mk middle outcome =>
          rw [next] at read
          cases outcome with
          | error error => cases read
          | ok _ => rw [List.cons_append, readTexts_cons _ next, ih read]

theorem before_colon {name : Text} (uncut : ':' ∉ name) : ∀ c ∈ name, (c != ':') = true := by
  intro c member
  simp only [bne_iff_ne, ne_eq]
  rintro rfl
  exact uncut member

theorem fieldName_cut {name : Text} (uncut : ':' ∉ name) (value : Text) :
    fieldName (name ++ ':' :: value) = name := by
  rw [fieldName, List.takeWhile_append_of_pos (before_colon uncut)]
  simp

theorem fieldName_bare {name : Text} (uncut : ':' ∉ name) : fieldName name = name := by
  rw [fieldName, List.takeWhile_eq_self_iff]
  exact before_colon uncut

theorem fieldValue_cut {name : Text} (uncut : ':' ∉ name) (value : Text) :
    fieldValue (name ++ ':' :: value) = stripSpace value := by
  rw [fieldValue, List.dropWhile_append_of_pos (before_colon uncut)]
  simp

theorem stripSpace_solid {value : Text} (solid : value.head? ≠ some ' ') :
    stripSpace value = value := by
  unfold stripSpace
  split
  · exact absurd rfl solid
  · rfl

theorem readField_unknown (pending : Pending) {name : Text} (value : String)
    (unknown : name ≠ "event".toList ∧ name ≠ "data".toList) :
    readField endpoint pending name value = (pending, .ok ()) := by
  rw [readField, if_neg unknown.1, if_neg unknown.2]

theorem noise_skipped (reading : Reading) {line : Text} (noise : Noise line) :
    readFieldLine endpoint onRecord reading line = (reading, .ok ()) := by
  have skipped (name value : Text) (filled : name ≠ []) (uncut : ':' ∉ name)
      (unknown : name ≠ "event".toList ∧ name ≠ "data".toList) (line : Text)
      (shape : line.head? = name.head?) (named : fieldName line = name) :
      readFieldLine endpoint onRecord reading line = (reading, .ok ()) := by
    cases name with
    | nil => contradiction
    | cons c rest =>
        have solid : ¬line.isEmpty = true := by
          cases line with
          | nil => contradiction
          | cons => nofun
        have colon : line.head? ≠ some ':' := by
          rw [shape]
          rintro same
          cases same
          exact uncut List.mem_cons_self
        rw [readFieldLine, if_neg solid, if_neg colon, named, readField_unknown _ _ unknown]
  cases noise with
  | comment => rfl
  | @field name value filled plain plainValue uncut unknown =>
      apply skipped name value filled uncut unknown
      · cases name with
        | nil => contradiction
        | cons => rfl
      · exact fieldName_cut uncut value
  | bare filled plain uncut unknown =>
      exact skipped line [] filled uncut unknown line rfl (fieldName_bare uncut)

theorem fieldLine_read (reading : Reading) {name value : String} {line : Text}
    (filled : name.toList ≠ []) (uncut : ':' ∉ name.toList) (field : FieldLine name value line) :
    readFieldLine endpoint onRecord reading line =
      (let read := readField endpoint reading.pending name.toList value
       ({ reading with pending := read.1 }, read.2)) := by
  have shaped (rest : Text) (same : stripSpace rest = value.toList) :
      readFieldLine endpoint onRecord reading (name.toList ++ ':' :: rest) =
        (let read := readField endpoint reading.pending name.toList value
         ({ reading with pending := read.1 }, read.2)) := by
    have solid : ¬(name.toList ++ ':' :: rest).isEmpty = true := by simp
    have colon : (name.toList ++ ':' :: rest).head? ≠ some ':' := by
      cases letters : name.toList with
      | nil => contradiction
      | cons c later =>
          intro same
          cases same
          exact uncut (letters ▸ List.mem_cons_self)
    rw [readFieldLine, if_neg solid, if_neg colon, fieldName_cut uncut,
      fieldValue_cut uncut, same, String.ofList_toList]
  cases field with
  | spaced => exact shaped _ rfl
  | tight solid => exact shaped _ (stripSpace_solid solid)

theorem interleaved_read {wanted lines : List Text} (interleaved : Interleaved wanted lines)
    (reading : Reading) :
    readTexts endpoint onRecord reading lines = readTexts endpoint onRecord reading wanted := by
  induction interleaved generalizing reading with
  | nil => rfl
  | kept _ ih => simp only [readTexts, ih]
  | noise noise _ ih => rw [readTexts_cons _ (noise_skipped reading noise), ih]

theorem event_read (reading : Reading) {value : String} {line : Text}
    (field : FieldLine "event" value line) :
    readFieldLine endpoint onRecord reading line =
      ({ reading with pending := { reading.pending with eventType := some value } }, .ok ()) := by
  rw [fieldLine_read reading (by decide) (by decide) field]
  rfl

theorem data_read (reading : Reading) {value : String} {line : Text}
    (field : FieldLine "data" value line)
    (fits : reading.pending.dataBytes + value.utf8ByteSize ≤ maxSseEventDataBytes) :
    readFieldLine endpoint onRecord reading line =
      (⟨⟨reading.pending.eventType, reading.pending.dataLines ++ [value],
        reading.pending.dataBytes + value.utf8ByteSize⟩, reading.delivered⟩, .ok ()) := by
  have other : "data".toList ≠ "event".toList := by decide
  rw [fieldLine_read reading (by decide) (by decide) field, readField, if_neg other, if_pos rfl]
  simp only [Nat.not_lt.mpr fits, if_false]

theorem dataLines_read {values : List String} {lines : List Text}
    (fields : List.Forall₂ (FieldLine "data") values lines) (reading : Reading)
    (fits : reading.pending.dataBytes + (values.map String.utf8ByteSize).sum ≤
      maxSseEventDataBytes) :
    readTexts endpoint onRecord reading lines =
      (⟨⟨reading.pending.eventType, reading.pending.dataLines ++ values,
        reading.pending.dataBytes + (values.map String.utf8ByteSize).sum⟩,
        reading.delivered⟩, .ok ()) := by
  induction fields generalizing reading with
  | nil => simp
  | @cons value line values lines field _ ih =>
      rw [List.map_cons, List.sum_cons] at fits
      have here := @data_read endpoint onRecord reading value line field (by omega)
      rw [readTexts_cons _ here, ih _ (by dsimp only; omega)]
      simp only [List.append_assoc, List.singleton_append, List.map_cons, List.sum_cons,
        Nat.add_assoc]

theorem event_lines_read {event : SseEvent} {lines : List Text} (encoded : EventLines event lines)
    (delivered : List SseRecord) :
    readTexts endpoint onRecord ⟨.none, delivered⟩ lines =
      (⟨⟨event.eventType, event.dataLines, (event.dataLines.map String.utf8ByteSize).sum⟩,
        delivered⟩, .ok ()) := by
  obtain ⟨typeLine, dataLines, typed, fields, interleaved⟩ := encoded
  rw [interleaved_read interleaved]
  have bounded := event.bounded
  generalize event.eventType = eventType at typed ⊢
  cases typed with
  | none =>
      rw [List.nil_append, dataLines_read fields _ (by simpa [Pending.none] using bounded)]
      simp [Pending.none]
  | some field =>
      rw [List.singleton_append, readTexts_cons _ (event_read _ field),
        dataLines_read fields _ (by simpa [Pending.none] using bounded)]
      simp [Pending.none]

theorem blank_read (reading : Reading) :
    readFieldLine endpoint onRecord reading [] = dispatchSseRecord onRecord reading := rfl

theorem event_dispatched (event : SseEvent) (delivered : List SseRecord) (dataBytes : Nat) :
    dispatchSseRecord onRecord ⟨⟨event.eventType, event.dataLines, dataBytes⟩, delivered⟩ =
      (⟨.none, delivered ++ [event.record]⟩, onRecord (delivered ++ [event.record])) := by
  have filled : ¬event.dataLines.isEmpty = true := by simpa using event.filled
  rw [dispatchSseRecord, if_neg filled]
  rfl

-- What is left at the end of the body is an event of its own.
def finish (onRecord : List SseRecord → Except MissiveError Unit) : Outcome → Outcome
  | (reading, .ok ()) => dispatchSseRecord onRecord reading
  | (reading, .error error) => (reading, .error error)

theorem noise_read {lines : List Text} (noise : ∀ line ∈ lines, Noise line) (reading : Reading) :
    readTexts endpoint onRecord reading lines = (reading, .ok ()) := by
  induction lines with
  | nil => rfl
  | cons line rest ih =>
      rw [readTexts_cons _ (noise_skipped reading (noise line List.mem_cons_self))]
      exact ih fun other member => noise other (List.mem_cons_of_mem line member)

theorem encoded_read {events : List SseEvent} {lines : List Text} (encoded : Encodes events lines)
    (delivered : List SseRecord) :
    finish onRecord (readTexts endpoint onRecord ⟨.none, delivered⟩ lines) =
      (⟨.none, (deliver onRecord delivered (events.map SseEvent.record)).1⟩,
        (deliver onRecord delivered (events.map SseEvent.record)).2) := by
  induction encoded generalizing delivered with
  | ended noise =>
      rw [noise_read noise]
      rfl
  | @unclosed event _ encoded =>
      rw [event_lines_read encoded, finish, event_dispatched, List.map_singleton, deliver]
      cases onRecord (delivered ++ [event.record]) <;> rfl
  | @closed event events _ later encoded _ ih =>
      rw [readTexts_append _ (event_lines_read encoded delivered), readTexts, blank_read,
        event_dispatched, List.map_cons, deliver]
      cases onRecord (delivered ++ [event.record]) with
      | ok _ => exact ih _
      | error error => rfl

end Lines

/-! No line of an encoding holds a line ending. -/

theorem plain_append {first last : Text} :
    Plain (first ++ last) ↔ Plain first ∧ Plain last := by
  simp only [Plain, List.mem_append, not_or]
  exact and_and_and_comm

theorem plain_cons {c : Char} {rest : Text} (solid : c ≠ '\r' ∧ c ≠ '\n') (plain : Plain rest) :
    Plain (c :: rest) := by
  have single : Plain [c] := by simp [Plain, solid.1.symm, solid.2.symm]
  exact plain_append.mpr ⟨single, plain⟩

theorem field_plain {name value : String} {line : Text} (named : Plain name.toList)
    (plain : Plain value.toList) (field : FieldLine name value line) : Plain line := by
  cases field with
  | spaced =>
      exact plain_append.mpr ⟨named, plain_cons (by decide) (plain_cons (by decide) plain)⟩
  | tight => exact plain_append.mpr ⟨named, plain_cons (by decide) plain⟩

theorem noise_plain {line : Text} (noise : Noise line) : Plain line := by
  cases noise with
  | comment plain => exact plain_cons (by decide) plain
  | field _ plain plainValue => exact plain_append.mpr ⟨plain, plain_cons (by decide) plainValue⟩
  | bare _ plain => exact plain

theorem interleaved_plain {wanted lines : List Text} (interleaved : Interleaved wanted lines)
    (plain : ∀ line ∈ wanted, Plain line) : ∀ line ∈ lines, Plain line := by
  induction interleaved with
  | nil => exact plain
  | kept _ ih =>
      rw [List.forall_mem_cons] at plain ⊢
      exact ⟨plain.1, ih plain.2⟩
  | noise noise _ ih => exact List.forall_mem_cons.mpr ⟨noise_plain noise, ih plain⟩

theorem dataLines_plain {values : List String} {lines : List Text}
    (fields : List.Forall₂ (FieldLine "data") values lines)
    (plain : ∀ value ∈ values, Plain value.toList) : ∀ line ∈ lines, Plain line := by
  induction fields with
  | nil => nofun
  | cons field _ ih =>
      rw [List.forall_mem_cons] at plain ⊢
      exact ⟨field_plain ⟨by decide, by decide⟩ plain.1 field, ih plain.2⟩

theorem event_plain {event : SseEvent} {lines : List Text} (encoded : EventLines event lines) :
    ∀ line ∈ lines, Plain line := by
  obtain ⟨typeLine, dataLines, typed, fields, interleaved⟩ := encoded
  apply interleaved_plain interleaved
  rw [List.forall_mem_append]
  refine ⟨?_, dataLines_plain fields event.plainData⟩
  have plainType := event.plainType
  generalize event.eventType = eventType at typed plainType
  cases typed with
  | none => nofun
  | some field =>
      rw [List.forall_mem_singleton]
      exact field_plain ⟨by decide, by decide⟩ (plainType _ rfl) field

theorem encoded_plain {events : List SseEvent} {lines : List Text}
    (encoded : Encodes events lines) : ∀ line ∈ lines, Plain line := by
  induction encoded with
  | ended noise => exact fun line member => noise_plain (noise line member)
  | unclosed encoded => exact event_plain encoded
  | closed encoded _ ih =>
      rw [List.forall_mem_append, List.forall_mem_cons]
      exact ⟨event_plain encoded, ⟨nofun, nofun⟩, ih⟩

/-! The whole body. -/

section Whole

variable {endpoint : String} {onRecord : List SseRecord → Except MissiveError Unit}

theorem trimEnd_plain {line : Text} (plain : Plain line) (ending : LineEnding) :
    trimEnd (line ++ ending.text) = line := by
  have kept : line.rdropWhile (fun c => c == '\r' || c == '\n') = line := by
    rw [List.rdropWhile_eq_self_iff]
    intro filled
    have member := List.getLast_mem filled
    have other : line.getLast filled ≠ '\r' ∧ line.getLast filled ≠ '\n' :=
      ⟨fun same => plain.1 (same ▸ member), fun same => plain.2 (same ▸ member)⟩
    simp [other]
  cases ending with
  | lf =>
      rw [trimEnd, LineEnding.text, List.rdropWhile_concat_pos _ _ _ (by decide)]
      exact kept
  | crlf =>
      have ends : line ++ ['\r', '\n'] = (line ++ ['\r']) ++ ['\n'] := by simp
      rw [trimEnd, LineEnding.text, ends, List.rdropWhile_concat_pos _ _ _ (by decide),
        List.rdropWhile_concat_pos _ _ _ (by decide)]
      exact kept

theorem rendered_lines {lines : List (Text × LineEnding)} (plain : ∀ line ∈ lines, Plain line.1) :
    (rendered lines).lines = lines.map fun line => utf8 (line.1 ++ line.2.text) := by
  let cut (line : Text × LineEnding) : Text := line.1 ++ line.2.text.dropLast
  have ends (line : Text × LineEnding) : line.1 ++ line.2.text = cut line ++ ['\n'] := by
    obtain ⟨text, ending⟩ := line
    cases ending <;> simp [cut, LineEnding.text]
  have free : ∀ text ∈ lines.map cut, '\n' ∉ text := by
    intro text member
    obtain ⟨line, listed, rfl⟩ := List.mem_map.mp member
    have whole := (plain line listed).2
    obtain ⟨text, ending⟩ := line
    cases ending <;> simpa [cut, LineEnding.text] using whole
  have bytes : (rendered lines).bytes =
      utf8 ((lines.map cut).flatMap fun text => text ++ ['\n']) := by
    simp only [rendered, ends, List.flatMap_map]
  have whole : (rendered lines).lines = ByteLines.lines (rendered lines).bytes := rfl
  rw [whole, bytes, lines_texts free, List.map_map]
  simp only [ends, Function.comp_def]

theorem rendered_read {lines : List (Text × LineEnding)} (plain : ∀ line ∈ lines, Plain line.1)
    (reading : Reading) :
    readSseLines endpoint onRecord reading
        (lines.map fun line => utf8 (line.1 ++ line.2.text)) =
      readTexts endpoint onRecord reading (lines.map Prod.fst) := by
  induction lines generalizing reading with
  | nil => rfl
  | cons line rest ih =>
      have later := ih fun other member => plain other (List.mem_cons_of_mem line member)
      have here := trimEnd_plain (plain line List.mem_cons_self) line.2
      simp only [List.map_cons, readSseLines, decode_utf8, String.toList_ofList, here, readTexts,
        later]

theorem decodes_encoded {events : List SseEvent} {lines : List (Text × LineEnding)}
    (encoded : Encodes events (lines.map Prod.fst)) :
    readSseRecords endpoint onRecord (rendered lines) =
      (⟨.none, (deliver onRecord [] (events.map SseEvent.record)).1⟩,
        (deliver onRecord [] (events.map SseEvent.record)).2) := by
  have plain : ∀ line ∈ lines, Plain line.1 := fun line member =>
    encoded_plain encoded line.1 (List.mem_map_of_mem member)
  rw [readSseRecords, rendered_lines plain, rendered_read plain]
  have read := @encoded_read endpoint onRecord events _ encoded []
  cases texts : readTexts endpoint onRecord ⟨.none, []⟩ (lines.map Prod.fst) with
  | mk after outcome =>
      rw [texts] at read
      cases outcome with
      | ok _ => exact read
      | error error => exact read

theorem deliver_accepted (accepting : ∀ records, onRecord records = .ok ())
    (delivered records : List SseRecord) :
    deliver onRecord delivered records = (delivered ++ records, .ok ()) := by
  induction records generalizing delivered with
  | nil => simp [deliver]
  | cons record rest ih => simp [deliver, accepting, ih]

/-- Reading undoes writing. A callback that refuses a record gets that one and no further one. -/
theorem sse_round_trip (endpoint : String) (onRecord : List SseRecord → Except MissiveError Unit)
    (events : List SseEvent) (lines : List (Text × LineEnding))
    (encoded : Encodes events (lines.map Prod.fst)) :
    (((readSseRecords endpoint onRecord (rendered lines)).1.delivered,
      (readSseRecords endpoint onRecord (rendered lines)).2) =
        deliver onRecord [] (events.map SseEvent.record)) ∧
    ((∀ records, onRecord records = .ok ()) →
      (readSseRecords endpoint onRecord (rendered lines)).1.delivered = events.map SseEvent.record ∧
      (readSseRecords endpoint onRecord (rendered lines)).2 = .ok ()) := by
  rw [decodes_encoded encoded]
  refine ⟨rfl, ?_⟩
  intro accepting
  rw [deliver_accepted accepting]
  exact ⟨rfl, rfl⟩

def update : SseEvent where
  eventType := some "update"
  dataLines := ["first", " second"]
  filled := nofun
  plainType := by
    rintro _ ⟨⟩
    exact ⟨by decide, by decide⟩
  plainData := by
    rw [List.forall_mem_cons, List.forall_mem_singleton]
    exact ⟨⟨by decide, by decide⟩, by decide, by decide⟩
  bounded := by decide

def updateLines : List (Text × LineEnding) :=
  [(":ping".toList, .lf), ("event: update".toList, .crlf), ("data:first".toList, .lf),
    ("id: 7".toList, .lf), ("data:  second".toList, .crlf), ([], .lf)]

theorem update_encoded : Encodes [update] (updateLines.map Prod.fst) := by
  have parts : updateLines.map Prod.fst = (updateLines.map Prod.fst).take 5 ++ [] :: [] := rfl
  rw [parts]
  refine .closed ?_ (.ended nofun)
  refine ⟨["event: update".toList], ["data:first".toList, "data:  second".toList],
    .some .spaced, .cons (.tight (by decide)) (.cons .spaced .nil), ?_⟩
  have ping : Noise ":ping".toList := .comment ⟨by decide, by decide⟩
  have id : Noise "id: 7".toList :=
    @Noise.field "id".toList " 7".toList (by decide) ⟨by decide, by decide⟩
      ⟨by decide, by decide⟩ (by decide) (by decide)
  exact .noise ping (.kept (.kept (.noise id (.kept .nil))))

theorem update_decoded :
    (readSseRecords "https://agent.example/" (fun _ => .ok ()) (rendered updateLines)).1.delivered =
      [⟨some "update", "first\n second"⟩] := by
  have accepted := (sse_round_trip "https://agent.example/" (fun _ => .ok ()) [update] updateLines
    update_encoded).2 fun _ => rfl
  rw [accepted.1]
  decide

end Whole

end Missive.SseRecords
