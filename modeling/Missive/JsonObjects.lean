import Mathlib.Algebra.Group.Int.Defs
import Missive.Core

/-! JSON objects, written and read field by field. A writer lists its fields, some of them absent;
a later field replaces an earlier one of the same name, as in `serde_json::Map`. A reader asks for
a field by its name. -/
namespace Missive.JsonObjects

open JsonValue KeyedTable Missive.Core

/-! Writing. -/

-- A field that is skipped holds nothing.
abbrev Slots := List (String × Option Json)

def putSlot (fields : Table (String × Json)) (slot : String × Option Json) : Table (String × Json) :=
  match slot.2 with
  | some value => fields.put (slot.1, value)
  | none => fields

def objectOf (slots : Slots) : Json := .object (slots.foldl putSlot Table.empty).rows

-- What an object holds under a name in the end: the last of the fields that is not skipped.
def slot (slots : Slots) (name : String) : Option Json :=
  slots.foldl (fun held slot => if slot.1 = name then slot.2.or held else held) none

def skipNone {Value : Type} (encode : Value → Json) (value : Option Value) : Option Json :=
  value.map encode

def skipEmpty {Value : Type} (encode : Value → Json) (values : List Value) : Option Json :=
  if values.isEmpty then none else some (.array (values.map encode))

theorem lookup_rows (fields : Table (String × Json)) (name : String) :
    fields.rows.lookup name = (fields.find? name).map Prod.snd := by
  unfold Table.find?
  induction fields.rows with
  | nil => rfl
  | cons entry rest ih =>
      obtain ⟨label, value⟩ := entry
      rw [List.lookup_cons, ih]
      by_cases same : label = name
      · simp [List.find?, key, same]
      · have other : (name == label) = false := by simp [Ne.symm same]
        simp [List.find?, key, same, other]

theorem find_putSlot (fields : Table (String × Json)) (item : String × Option Json) (name : String) :
    ((putSlot fields item).find? name).map Prod.snd =
      if item.1 = name then item.2.or ((fields.find? name).map Prod.snd)
      else (fields.find? name).map Prod.snd := by
  obtain ⟨label, value⟩ := item
  cases value with
  | none => simp [putSlot]
  | some value =>
      simp only [putSlot]
      rw [Table.find?_put]
      by_cases same : label = name
      · simp [key, same]
      · have other : ¬ name = label := fun equal => same equal.symm
        simp [key, same, other]

/-- An object holds under each name the last field written there. -/
theorem get_objectOf (slots : Slots) (name : String) : (objectOf slots).get name = slot slots name := by
  have general : ∀ fields : Table (String × Json),
      ((slots.foldl putSlot fields).find? name).map Prod.snd =
        slots.foldl (fun held item => if item.1 = name then item.2.or held else held)
          ((fields.find? name).map Prod.snd) := by
    induction slots with
    | nil => exact fun _ => rfl
    | cons item rest ih =>
        intro fields
        rw [List.foldl_cons, List.foldl_cons, ih, find_putSlot]
  exact (lookup_rows _ name).trans (general Table.empty)

theorem slot_append (first last : Slots) (name : String) :
    slot (first ++ last) name = (slot last name).or (slot first name) := by
  have general : ∀ held : Option Json,
      last.foldl (fun held item => if item.1 = name then item.2.or held else held) held =
        (slot last name).or held := by
    unfold slot
    induction last with
    | nil => exact fun _ => rfl
    | cons item rest ih =>
        intro held
        rw [List.foldl_cons, List.foldl_cons, ih, ih (if item.1 = name then item.2.or none else none)]
        split <;> simp [Option.or_assoc]
  unfold slot
  rw [List.foldl_append]
  exact general _

/-! Reading. -/

abbrev Fields := String → Option Json

section Readers

variable {Value : Type}

def readOption (read : Json → Option Value) : Json → Option (Option Value)
  | .null => some none
  | value => (read value).map some

def readList (read : Json → Option Value) : Json → Option (List Value)
  | .array items => items.mapM read
  | _ => none

-- The fields of a struct: those of an object, or the elements of an array by their position.
def structFields (names : List String) (least : Nat) : Json → Option Fields
  | .object fields => some fun name => fields.lookup name
  | .array items =>
      if least ≤ items.length ∧ items.length ≤ names.length then
        some fun name => (names.idxOf? name).bind fun position => items[position]?
      else none
  | _ => none

theorem structFields_objectOf (names : List String) (least : Nat) (slots : Slots) :
    structFields names least (objectOf slots) = some (slot slots) :=
  congrArg some (funext (get_objectOf slots))

def hide (hidden : List String) (fields : Fields) : Fields :=
  fun name => if name ∈ hidden then none else fields name

-- A field that has to be there, one that may be absent, and one with a default.
def required (read : Json → Option Value) (field : Option Json) : Option Value := field.bind read

def optional (read : Json → Option Value) : Option Json → Option (Option Value)
  | none => some none
  | some value => readOption read value

def defaulted (read : Json → Option Value) (default : Value) : Option Json → Option Value
  | none => some default
  | some value => read value

/-- What the encoder writes is read back, and is never `null`. -/
structure Reads (read : Json → Option Value) (encode : Value → Json) : Prop where
  same : ∀ value, read (encode value) = some value
  visible : ∀ value, encode value ≠ .null

variable {read : Json → Option Value} {encode : Value → Json}

theorem readOption_some {json : Json} (visible : json ≠ .null) :
    readOption read json = (read json).map some := by
  cases json <;> first | rfl | exact absurd rfl visible

theorem readList_map (reads : ∀ value, read (encode value) = some value) (values : List Value) :
    readList read (.array (values.map encode)) = some values := by
  simp only [readList]
  induction values with
  | nil => rfl
  | cons value rest ih =>
      rw [List.map_cons, List.mapM_cons, reads, ih]
      rfl

theorem optional_skipNone (reads : Reads read encode) (value : Option Value) :
    optional read (skipNone encode value) = some value := by
  cases value with
  | none => rfl
  | some value =>
      change readOption read (encode value) = some (some value)
      rw [readOption_some (reads.visible value), reads.same]
      rfl

theorem defaulted_skipEmpty (reads : ∀ value, read (encode value) = some value)
    (values : List Value) : defaulted (readList read) [] (skipEmpty encode values) = some values := by
  cases values with
  | nil => rfl
  | cons value rest => exact readList_map reads (value :: rest)

end Readers

theorem reads_text : Reads Json.asStr .string := ⟨fun _ => rfl, fun _ shown => by cases shown⟩

/-! An object seen in part: the hidden names are taken out of it before it is read. -/

def Shows (hidden : List String) (fields : Fields) (slots : Slots) : Prop :=
  ∀ name ∈ slots.map Prod.fst, fields name = if name ∈ hidden then none else slot slots name

theorem slot_absent {slots : Slots} {name : String} (absent : name ∉ slots.map Prod.fst) :
    slot slots name = none := by
  unfold slot
  induction slots with
  | nil => rfl
  | cons item rest ih =>
      obtain ⟨apart, beyond⟩ := not_or.mp (List.mem_cons.not.mp absent)
      rw [List.foldl_cons, if_neg (Ne.symm apart)]
      exact ih beyond

theorem Shows.left {hidden : List String} {fields : Fields} {first last : Slots}
    (shown : Shows hidden fields (first ++ last))
    (apart : ∀ name ∈ first.map Prod.fst, name ∉ last.map Prod.fst) : Shows hidden fields first := by
  intro name member
  have within : name ∈ (first ++ last).map Prod.fst := by
    rw [List.map_append]
    exact List.mem_append_left _ member
  rw [shown name within, slot_append, slot_absent (apart name member), Option.none_or]

theorem Shows.right {hidden : List String} {fields : Fields} {first last : Slots}
    (shown : Shows hidden fields (first ++ last))
    (apart : ∀ name ∈ last.map Prod.fst, name ∉ first.map Prod.fst) : Shows hidden fields last := by
  intro name member
  have within : name ∈ (first ++ last).map Prod.fst := by
    rw [List.map_append]
    exact List.mem_append_right _ member
  rw [shown name within, slot_append, slot_absent (apart name member), Option.or_none]

theorem shows_hidden (hidden : List String) {fields : Fields} {slots : Slots}
    (seen : ∀ name ∈ slots.map Prod.fst, name ∉ hidden → fields name = slot slots name) :
    Shows hidden (hide hidden fields) slots := by
  intro name member
  by_cases covered : name ∈ hidden
  · simp [hide, covered]
  · simp [hide, covered, seen name member covered]

/-! Numbers. -/

def readU64 : Json → Option UInt64
  | .number (.posInt value) => if value < 2 ^ 64 then some (UInt64.ofNat value) else none
  | _ => none

def readU32 : Json → Option UInt32
  | .number (.posInt value) => if value < 2 ^ 32 then some (UInt32.ofNat value) else none
  | _ => none

def readI32 : Json → Option Int32
  | .number (.posInt value) => if value < 2 ^ 31 then some (Int32.ofInt value) else none
  | .number (.negInt value) => if -2 ^ 31 ≤ value then some (Int32.ofInt value) else none
  | _ => none

def writeI32 (value : Int32) : Json :=
  if 0 ≤ value.toInt then .number (.posInt value.toInt.toNat) else .number (.negInt value.toInt)

theorem reads_u64 : Reads readU64 fun value => .nat value.toNat := by
  refine ⟨?_, fun _ shown => by cases shown⟩
  intro value
  have bounded : value.toNat < 2 ^ 64 := value.toNat_lt
  simp only [readU64, Json.nat]
  rw [if_pos bounded, UInt64.ofNat_toNat]

theorem reads_u32 : Reads readU32 fun value => .nat value.toNat := by
  refine ⟨?_, fun _ shown => by cases shown⟩
  intro value
  have bounded : value.toNat < 2 ^ 32 := value.toNat_lt
  simp only [readU32, Json.nat]
  rw [if_pos bounded, UInt32.ofNat_toNat]

theorem reads_i32 : Reads readI32 writeI32 := by
  refine ⟨?_, ?_⟩
  · intro value
    have above : value.toInt < 2 ^ 31 := value.toInt_lt
    have below : -2 ^ 31 ≤ value.toInt := value.le_toInt
    unfold writeI32
    by_cases negative : 0 ≤ value.toInt
    · have small : value.toInt.toNat < 2 ^ 31 := by omega
      rw [if_pos negative]
      simp only [readI32]
      rw [if_pos small, Int.toNat_of_nonneg negative, Int32.ofInt_toInt]
    · rw [if_neg negative]
      simp only [readI32]
      rw [if_pos below, Int32.ofInt_toInt]
  · intro value
    unfold writeI32
    split <;> exact fun shown => by cases shown

/-! What is read of a written field, and of one that is not there. -/

@[simp] theorem defaulted_none {Value : Type} (read : Json → Option Value) (default : Value) :
    defaulted read default none = some default := rfl

@[simp] theorem optional_none {Value : Type} (read : Json → Option Value) :
    optional read none = some none := rfl

@[simp] theorem required_text (value : String) : required Json.asStr (some (.string value)) = some value :=
  rfl

@[simp] theorem optional_text (value : Option String) :
    optional Json.asStr (skipNone .string value) = some value :=
  optional_skipNone reads_text value

@[simp] theorem optional_u64 (value : Option UInt64) :
    optional readU64 (skipNone (fun value => .nat value.toNat) value) = some value :=
  optional_skipNone reads_u64 value

@[simp] theorem optional_i32 (value : Option Int32) :
    optional readI32 (skipNone writeI32 value) = some value :=
  optional_skipNone reads_i32 value

@[simp] theorem defaulted_bool (default value : Bool) :
    defaulted Json.asBool default (some (.bool value)) = some value := rfl

@[simp] theorem defaulted_text (default value : String) :
    defaulted Json.asStr default (some (.string value)) = some value := rfl

@[simp] theorem defaulted_u32 (default value : UInt32) :
    defaulted readU32 default (some (.nat value.toNat)) = some value :=
  reads_u32.same value

@[simp] theorem defaulted_texts (values : List String) :
    defaulted (readList Json.asStr) [] (skipEmpty .string values) = some values :=
  defaulted_skipEmpty reads_text.same values

@[simp] theorem defaulted_values (values : List Json) :
    defaulted (readList some) [] (skipEmpty id values) = some values :=
  defaulted_skipEmpty (fun _ => rfl) values

end Missive.JsonObjects
