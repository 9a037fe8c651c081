import Mathlib.Data.List.Basic
import Mathlib.Data.List.TakeWhile
import Missive.SseRecords

/-! The limit on the data of one event. The counter adds up the values of the data lines; the line
feeds that join them are not counted. -/
namespace Missive.SseLimits

open RustText Missive.Core ByteLines SseRecords

def total (values : List String) : Nat := (values.map String.utf8ByteSize).sum

def joined (values : List String) : String := "\n".intercalate values

/-! What a body holds, read apart from the code. -/

-- The lines before the first one that is not UTF-8.
def fieldLines : List (List UInt8) → List Text
  | [] => []
  | bytes :: rest =>
      match decode bytes with
      | none => []
      | some line => trimEnd line.toList :: fieldLines rest

def dataValue (line : Text) : Option String :=
  if line.head? = some ':' then none
  else if fieldName line = "data".toList then some (String.ofList (fieldValue line))
  else none

-- The data of the event that is open after some lines: its values since the last blank line.
def openValues (lines : List Text) : List String :=
  (lines.rtakeWhile fun line => !line.isEmpty).filterMap dataValue

def WithinLimit (lines : List Text) (count : Nat) : Prop :=
  ∀ earlier ≤ count, total (openValues (lines.take earlier)) ≤ maxSseEventDataBytes

/-- As far as a body is read, no event has values within the limit that exceed it together with the
line feeds between them. -/
def FeedsFit (body : Body) : Prop :=
  ∀ count, WithinLimit (fieldLines body.lines) count →
    total (openValues ((fieldLines body.lines).take count)) +
      (openValues ((fieldLines body.lines).take count)).length ≤ maxSseEventDataBytes + 1

structure Bounded (endpoint : String) (onRecord : List SseRecord → Except MissiveError Unit)
    (body : Body) : Prop where
  delivered : ∀ record ∈ (readSseRecords endpoint onRecord body).1.delivered,
    record.data.utf8ByteSize ≤ maxSseEventDataBytes
  held : ∀ count, (joined (readSseLines endpoint onRecord ⟨.none, []⟩
    (body.lines.take count)).1.pending.dataLines).utf8ByteSize ≤ maxSseEventDataBytes

/-! Sizes. -/

@[simp] theorem total_append (first last : List String) :
    total (first ++ last) = total first + total last := by
  simp [total]

theorem joined_size {values : List String} (filled : values ≠ []) :
    (joined values).utf8ByteSize + 1 = total values + values.length := by
  induction values with
  | nil => contradiction
  | cons value rest ih =>
      cases rest with
      | nil => simp [joined, total]
      | cons next rest =>
          have later := ih nofun
          have feed : "\n".utf8ByteSize = 1 := by decide
          have parts : joined (value :: next :: rest) = value ++ "\n" ++ joined (next :: rest) :=
            String.intercalate_cons_cons
          rw [parts, String.utf8ByteSize_append, String.utf8ByteSize_append, feed]
          simp only [total, List.map_cons, List.sum_cons, List.length_cons] at later ⊢
          omega

theorem joined_fits (values : List String) :
    (joined values).utf8ByteSize ≤ maxSseEventDataBytes ↔
      total values + values.length ≤ maxSseEventDataBytes + 1 := by
  cases values with
  | nil => simp [joined, total]
  | cons value rest =>
      have size := joined_size (List.cons_ne_nil value rest)
      omega

/-! The open event. -/

@[simp] theorem openValues_nil : openValues [] = [] := rfl

theorem openValues_blank (lines : List Text) : openValues (lines ++ [[]]) = [] := by
  rw [openValues, List.rtakeWhile_concat_neg _ _ _ (by decide)]
  rfl

theorem openValues_line (lines : List Text) {line : Text} (filled : line ≠ []) :
    openValues (lines ++ [line]) = openValues lines ++ (dataValue line).toList := by
  have kept : (!line.isEmpty) = true := by simpa using filled
  rw [openValues, List.rtakeWhile_concat_pos (fun line => !line.isEmpty) lines line kept,
    List.filterMap_append, openValues]
  cases value : dataValue line <;> simp [value]

theorem fieldLines_take (raw : List (List UInt8)) (count : Nat) :
    fieldLines (raw.take count) = (fieldLines raw).take count := by
  induction raw generalizing count with
  | nil => simp [fieldLines]
  | cons bytes rest ih =>
      cases count with
      | zero => simp [fieldLines]
      | succ count =>
          rw [List.take_succ_cons, fieldLines, fieldLines]
          cases decode bytes with
          | none => simp
          | some line => simp [ih]

/-! What a line does to the event that is open. -/

section Run

variable {endpoint : String} {onRecord : List SseRecord → Except MissiveError Unit}

theorem other_line (reading : Reading) {line : Text} (filled : line ≠ [])
    (none : dataValue line = none) : ∃ eventType,
    readFieldLine endpoint onRecord reading line =
      (⟨⟨eventType, reading.pending.dataLines, reading.pending.dataBytes⟩, reading.delivered⟩,
        .ok ()) := by
  have solid : ¬line.isEmpty = true := by simpa using filled
  by_cases comment : line.head? = some ':'
  · exact ⟨_, by rw [readFieldLine, if_neg solid, if_pos comment]⟩
  · rw [dataValue, if_neg comment] at none
    by_cases data : fieldName line = "data".toList
    · rw [if_pos data] at none
      contradiction
    · rw [readFieldLine, if_neg solid, if_neg comment]
      by_cases event : fieldName line = "event".toList
      · exact ⟨_, by rw [event]; rfl⟩
      · exact ⟨_, by rw [readField_unknown _ _ ⟨event, data⟩]⟩

theorem data_line (reading : Reading) {line : Text} {value : String}
    (some : dataValue line = some value) :
    readFieldLine endpoint onRecord reading line =
      if maxSseEventDataBytes < reading.pending.dataBytes + value.utf8ByteSize then
        (⟨⟨reading.pending.eventType, reading.pending.dataLines,
          reading.pending.dataBytes + value.utf8ByteSize⟩, reading.delivered⟩,
          .error (limitExceeded endpoint))
      else
        (⟨⟨reading.pending.eventType, reading.pending.dataLines ++ [value],
          reading.pending.dataBytes + value.utf8ByteSize⟩, reading.delivered⟩, .ok ()) := by
  rw [dataValue] at some
  split_ifs at some with comment data
  have solid : ¬line.isEmpty = true := by
    cases line with
    | nil => exact absurd data (by decide)
    | cons => nofun
  have other : "data".toList ≠ "event".toList := by decide
  cases some
  rw [readFieldLine, if_neg solid, if_neg comment, data, readField, if_neg other, if_pos rfl]
  by_cases long : maxSseEventDataBytes <
      reading.pending.dataBytes + (String.ofList (fieldValue line)).utf8ByteSize
  · simp only [long, if_true]
  · simp only [long, if_false]

structure Tracks (reading : Reading) (seen : List Text) : Prop where
  values : reading.pending.dataLines = openValues seen
  bytes : reading.pending.dataBytes = total (openValues seen)

structure Counted (seen : List Text) (before : Reading) (line : Text) (after : Outcome) : Prop where
  delivered : after.1.delivered = before.delivered
  taken : after.2 = .ok () → Tracks after.1 (seen ++ [line])
  within : total (openValues seen) ≤ maxSseEventDataBytes →
    (after.2 = .ok () ↔ total (openValues (seen ++ [line])) ≤ maxSseEventDataBytes)
  refused : after.2 ≠ .ok () → after.1.pending.dataLines = before.pending.dataLines

theorem line_counted (endpoint : String) (onRecord : List SseRecord → Except MissiveError Unit)
    {seen : List Text} {reading : Reading} (tracks : Tracks reading seen)
    {line : Text} (filled : line ≠ []) :
    Counted seen reading line (readFieldLine endpoint onRecord reading line) := by
  have values := openValues_line seen filled
  cases value : dataValue line with
  | none =>
      obtain ⟨eventType, read⟩ :=
        @other_line endpoint onRecord reading line filled value
      rw [value, Option.toList_none, List.append_nil] at values
      rw [read]
      refine ⟨rfl, fun _ => ?_, fun within => ?_, fun refused => absurd rfl refused⟩
      · exact ⟨values ▸ tracks.values, values ▸ tracks.bytes⟩
      · exact iff_of_true rfl (values ▸ within)
  | some value' =>
      rw [value, Option.toList_some] at values
      have size : total (openValues (seen ++ [line])) =
          total (openValues seen) + value'.utf8ByteSize := by
        rw [values, total_append]
        simp [total]
      rw [data_line reading value, tracks.bytes]
      by_cases long : maxSseEventDataBytes < total (openValues seen) + value'.utf8ByteSize
      · rw [if_pos long]
        exact ⟨rfl, nofun, fun _ => iff_of_false nofun (by omega), fun _ => rfl⟩
      · rw [if_neg long]
        refine ⟨rfl, fun _ => ⟨?_, size.symm⟩, fun _ => iff_of_true rfl (by omega),
          fun refused => absurd rfl refused⟩
        rw [values, tracks.values]

theorem readTexts_snoc (reading : Reading) (first : List Text) (line : Text) :
    readTexts endpoint onRecord reading (first ++ [line]) =
      match readTexts endpoint onRecord reading first with
      | (after, .ok ()) => readFieldLine endpoint onRecord after line
      | (after, .error error) => (after, .error error) := by
  induction first generalizing reading with
  | nil =>
      cases read : readFieldLine endpoint onRecord reading line with
      | mk after outcome => cases outcome <;> simp [readTexts, read]
  | cons head rest ih =>
      rw [List.cons_append, readTexts, readTexts]
      rcases readFieldLine endpoint onRecord reading head with ⟨after, _ | _⟩
      · rfl
      · exact ih after

/-! Every point of a run. -/

-- What the event that is open holds there is what it holds after some lines of the body.
def Reached (lines : List Text) (values : List String) : Prop :=
  ∃ count, values = openValues (lines.take count) ∧ WithinLimit lines count

structure Sound (lines : List Text) (count : Nat) (after : Outcome) : Prop where
  pending : Reached lines after.1.pending.dataLines
  delivered : ∀ record ∈ after.1.delivered, ∃ values, record.data = joined values ∧
    Reached lines values
  live : after.2 = .ok () → Tracks after.1 (lines.take count) ∧ WithinLimit lines count

theorem WithinLimit.empty (lines : List Text) : WithinLimit lines 0 := by
  intro earlier bound
  simp [Nat.le_zero.mp bound, total]

theorem WithinLimit.next {lines : List Text} {count : Nat} (within : WithinLimit lines count)
    (fits : total (openValues (lines.take (count + 1))) ≤ maxSseEventDataBytes) :
    WithinLimit lines (count + 1) := by
  intro earlier bound
  cases Nat.lt_or_eq_of_le bound with
  | inl below => exact within earlier (by omega)
  | inr same => exact same ▸ fits

theorem reached_nil (lines : List Text) : Reached lines [] := ⟨0, rfl, WithinLimit.empty lines⟩

theorem dispatched_sound {lines : List Text} {count : Nat} {after : Outcome}
    (sound : Sound lines count after) :
    ∀ record ∈ (dispatchSseRecord onRecord after.1).1.delivered, ∃ values,
      record.data = joined values ∧ Reached lines values := by
  by_cases empty : after.1.pending.dataLines.isEmpty = true
  · rw [dispatchSseRecord, if_pos empty]
    exact sound.delivered
  · rw [dispatchSseRecord, if_neg empty, List.forall_mem_append, List.forall_mem_singleton]
    exact ⟨sound.delivered, _, rfl, sound.pending⟩

theorem dispatched_none (onRecord : List SseRecord → Except MissiveError Unit)
    (reading : Reading) :
    (dispatchSseRecord onRecord reading).1.pending = .none := by
  rw [dispatchSseRecord]
  split <;> rfl

theorem line_sound {lines : List Text} {count : Nat} {reading : Reading} {line : Text}
    (next : lines.take (count + 1) = lines.take count ++ [line])
    (sound : Sound lines count (reading, .ok ())) :
    Sound lines (count + 1) (readFieldLine endpoint onRecord reading line) := by
  obtain ⟨tracks, within⟩ := sound.live rfl
  by_cases blank : line = []
  · subst blank
    have none := dispatched_none onRecord reading
    have empty : openValues (lines.take (count + 1)) = [] := by rw [next, openValues_blank]
    rw [blank_read]
    refine ⟨?_, dispatched_sound sound, fun _ => ⟨⟨?_, ?_⟩, within.next ?_⟩⟩
    · rw [none]
      exact reached_nil lines
    · rw [none, empty]
      rfl
    · rw [none, empty]
      rfl
    · rw [empty]
      exact Nat.zero_le _
  · have counted := line_counted endpoint onRecord tracks blank
    have fits := within count (Nat.le_refl count)
    generalize readFieldLine endpoint onRecord reading line = after at counted
    have delivered : ∀ record ∈ after.1.delivered, ∃ values, record.data = joined values ∧
        Reached lines values := by
      rw [counted.delivered]
      exact sound.delivered
    by_cases read : after.2 = .ok ()
    · have tracks' := counted.taken read
      have fits' := (counted.within fits).mp read
      rw [← next] at tracks' fits'
      have within' := within.next fits'
      exact ⟨⟨_, tracks'.values, within'⟩, delivered, fun _ => ⟨tracks', within'⟩⟩
    · refine ⟨?_, delivered, fun returned => absurd returned read⟩
      rw [counted.refused read]
      exact sound.pending

theorem run_sound (endpoint : String) (onRecord : List SseRecord → Except MissiveError Unit)
    (lines : List Text) (count : Nat) :
    Sound lines count (readTexts endpoint onRecord ⟨.none, []⟩ (lines.take count)) := by
  induction count with
  | zero =>
      exact ⟨reached_nil lines, nofun, fun _ => ⟨⟨rfl, rfl⟩, WithinLimit.empty lines⟩⟩
  | succ count ih =>
      rw [List.take_add_one]
      cases line : lines[count]? with
      | none =>
          have whole : lines.take (count + 1) = lines.take count := by
            rw [List.take_add_one, line, Option.toList_none, List.append_nil]
          rw [Option.toList_none, List.append_nil]
          refine ⟨ih.pending, ih.delivered, fun returned => ?_⟩
          obtain ⟨tracks, within⟩ := ih.live returned
          rw [whole]
          exact ⟨tracks, within.next (whole ▸ within count (Nat.le_refl count))⟩
      | some line' =>
          have next : lines.take (count + 1) = lines.take count ++ [line'] := by
            rw [List.take_add_one, line, Option.toList_some]
          rw [Option.toList_some, readTexts_snoc]
          cases read : readTexts endpoint onRecord ⟨.none, []⟩ (lines.take count) with
          | mk after outcome =>
              rw [read] at ih
              cases outcome with
              | ok _ => exact line_sound next ih
              | error error => exact ⟨ih.pending, ih.delivered, nofun⟩

theorem within_read (endpoint : String) {lines : List Text} {count : Nat}
    (within : WithinLimit lines count) :
    (readTexts endpoint (fun _ => .ok ()) ⟨.none, []⟩ (lines.take count)).2 = .ok () := by
  induction count with
  | zero => rfl
  | succ count ih =>
      have earlier : WithinLimit lines count := fun smaller bound => within smaller (by omega)
      have sound := run_sound endpoint (fun _ => .ok ()) lines count
      rw [List.take_add_one]
      cases line : lines[count]? with
      | none =>
          rw [Option.toList_none, List.append_nil]
          exact ih earlier
      | some line' =>
          have next : lines.take (count + 1) = lines.take count ++ [line'] := by
            rw [List.take_add_one, line, Option.toList_some]
          have fits := within (count + 1) (Nat.le_refl _)
          rw [Option.toList_some, readTexts_snoc]
          cases read : readTexts endpoint (fun _ => .ok ()) ⟨.none, []⟩ (lines.take count) with
          | mk after outcome =>
              rw [read] at sound
              cases (congrArg Prod.snd read).symm.trans (ih earlier)
              obtain ⟨tracks, within'⟩ := sound.live rfl
              by_cases blank : line' = []
              · subst blank
                dsimp only
                rw [blank_read, dispatchSseRecord]
                split <;> rfl
              · have counted := line_counted endpoint (fun _ => .ok ()) tracks blank
                rw [next] at fits
                exact (counted.within (within' count (Nat.le_refl _))).mpr fits

theorem readSseLines_state (reading : Reading) (raw : List (List UInt8)) :
    (readSseLines endpoint onRecord reading raw).1 =
      (readTexts endpoint onRecord reading (fieldLines raw)).1 := by
  induction raw generalizing reading with
  | nil => rfl
  | cons bytes rest ih =>
      rw [readSseLines, fieldLines]
      cases decode bytes with
      | none => rfl
      | some line =>
          dsimp only
          rw [readTexts]
          cases readFieldLine endpoint onRecord reading (trimEnd line.toList) with
          | mk after outcome =>
              cases outcome with
              | ok _ => exact ih after
              | error error => rfl

theorem lines_sound (endpoint : String) (onRecord : List SseRecord → Except MissiveError Unit)
    (body : Body) : Sound (fieldLines body.lines) (fieldLines body.lines).length
      (readTexts endpoint onRecord ⟨.none, []⟩ (fieldLines body.lines)) := by
  have sound := run_sound endpoint onRecord (fieldLines body.lines) (fieldLines body.lines).length
  rwa [List.take_length] at sound

theorem records_reached (body : Body) :
    ∀ record ∈ (readSseRecords endpoint onRecord body).1.delivered, ∃ values,
      record.data = joined values ∧ Reached (fieldLines body.lines) values := by
  have sound := lines_sound endpoint onRecord body
  have state := @readSseLines_state endpoint onRecord ⟨.none, []⟩ body.lines
  rw [readSseRecords]
  cases read : readSseLines endpoint onRecord ⟨.none, []⟩ body.lines with
  | mk after outcome =>
      rw [read] at state
      dsimp only at state
      cases outcome with
      | error error =>
          rw [state]
          exact sound.delivered
      | ok _ =>
          rw [state]
          dsimp only
          split
          · exact sound.delivered
          · exact dispatched_sound sound

end Run

theorem reached_fits {body : Body} (fit : FeedsFit body) {values : List String}
    (reached : Reached (fieldLines body.lines) values) :
    (joined values).utf8ByteSize ≤ maxSseEventDataBytes := by
  obtain ⟨count, rfl, within⟩ := reached
  exact (joined_fits _).mpr (fit count within)

/-- The limit holds on a body, whatever is done with its records, exactly when the line feeds that
are not counted fit as well. -/
theorem limit_holds_iff (endpoint : String) (body : Body) :
    (∀ onRecord, Bounded endpoint onRecord body) ↔ FeedsFit body := by
  constructor
  · intro bounded count within
    have held := (bounded fun _ => .ok ()).held count
    have live := (run_sound endpoint (fun _ => .ok ()) (fieldLines body.lines) count).live
      (within_read endpoint within)
    rw [readSseLines_state, fieldLines_take, live.1.values] at held
    exact (joined_fits _).mp held
  · intro fit onRecord
    constructor
    · intro record member
      obtain ⟨values, same, reached⟩ := records_reached body record member
      rw [same]
      exact reached_fits fit reached
    · intro count
      rw [readSseLines_state, fieldLines_take]
      exact reached_fits fit (run_sound endpoint onRecord (fieldLines body.lines) count).pending

/-! A value of the greatest size, and an empty one after it. -/

section Full

variable {value : String}

def fullEvent (value : String) (plain : Plain value.toList)
    (full : value.utf8ByteSize = maxSseEventDataBytes) : SseEvent where
  eventType := none
  dataLines := [value, ""]
  filled := nofun
  plainType := nofun
  plainData := by
    rw [List.forall_mem_cons, List.forall_mem_singleton]
    exact ⟨plain, by decide, by decide⟩
  bounded := by simp [full]

def fullLines (value : String) : List (Text × LineEnding) :=
  [("data: ".toList ++ value.toList, .lf), ("data: ".toList, .lf), ([], .lf)]

theorem full_encoded (plain : Plain value.toList)
    (full : value.utf8ByteSize = maxSseEventDataBytes) :
    Encodes [fullEvent value plain full] ((fullLines value).map Prod.fst) := by
  have first : FieldLine "data" value ("data: ".toList ++ value.toList) := .spaced
  have second : FieldLine "data" "" "data: ".toList := .spaced
  have encoded : EventLines (fullEvent value plain full)
      ["data: ".toList ++ value.toList, "data: ".toList] :=
    ⟨[], _, .none, .cons first (.cons second .nil), .kept (.kept .nil)⟩
  exact .closed encoded (.ended nofun)

theorem full_unbounded (endpoint : String) (plain : Plain value.toList)
    (full : value.utf8ByteSize = maxSseEventDataBytes) :
    ¬Bounded endpoint (fun _ => .ok ()) (rendered (fullLines value)) := by
  intro bounded
  have read := @decodes_encoded endpoint (fun _ => .ok ()) _ _ (full_encoded plain full)
  have delivered := bounded.delivered (fullEvent value plain full).record (by
    rw [read]
    exact List.mem_singleton_self _)
  have size : (fullEvent value plain full).record.data.utf8ByteSize + 1 = total [value, ""] + 2 :=
    joined_size (List.cons_ne_nil value [""])
  have values : total [value, ""] = maxSseEventDataBytes := by simp [total, full]
  omega

end Full

def letters (count : Nat) : String := String.ofList (List.replicate count 'a')

theorem letters_size (count : Nat) : (letters count).utf8ByteSize = count := by
  induction count with
  | zero => rfl
  | succ count ih =>
      have grown : letters (count + 1) = letters count ++ "a" := by
        rw [letters, List.replicate_succ', String.ofList_append]
        rfl
      have one : "a".utf8ByteSize = 1 := by decide
      rw [grown, String.utf8ByteSize_append, ih, one]

theorem letters_plain (count : Nat) : Plain (letters count).toList := by
  rw [letters, String.toList_ofList]
  constructor
  · intro member
    exact absurd (List.eq_of_mem_replicate member) (by decide)
  · intro member
    exact absurd (List.eq_of_mem_replicate member) (by decide)

theorem line_feed_uncounted : ¬Bounded "https://agent.example/" (fun _ => .ok ())
    (rendered (fullLines (letters maxSseEventDataBytes))) :=
  full_unbounded _ (letters_plain _) (letters_size _)

end Missive.SseLimits
