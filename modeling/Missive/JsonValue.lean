import Mathlib.Data.List.Basic

/-! JSON values as `serde_json::Value` holds them. An object is its list of
fields in key order; `Map` keeps one value for each key. -/
namespace Missive.JsonValue

variable {Result : Type}

inductive Number where
  | posInt (value : Nat)
  | negInt (value : Int)
  | float (bits : UInt64)
  deriving DecidableEq

inductive Json where
  | null
  | bool (value : Bool)
  | number (value : Number)
  | string (text : String)
  | array (items : List Json)
  | object (fields : List (String × Json))

-- `Value::get` on an object, and nothing on any other value.
def Json.get (value : Json) (key : String) : Option Json :=
  match value with
  | .object fields => fields.lookup key
  | _ => none

def Json.nat (value : Nat) : Json := .number (.posInt value)

-- `json!` of an optional value.
def Json.ofOption (render : Result → Json) : Option Result → Json
  | some value => render value
  | none => .null

def Json.asBool : Json → Option Bool
  | .bool value => some value
  | _ => none

def Json.asStr : Json → Option String
  | .string text => some text
  | _ => none

/-! Equality of values. -/

mutual

def sameValue : Json → Json → Bool
  | .null, .null => true
  | .bool first, .bool last => first == last
  | .number first, .number last => first == last
  | .string first, .string last => first == last
  | .array first, .array last => sameItems first last
  | .object first, .object last => sameFields first last
  | _, _ => false

def sameItems : List Json → List Json → Bool
  | [], [] => true
  | first :: rest, last :: others => sameValue first last && sameItems rest others
  | _, _ => false

def sameFields : List (String × Json) → List (String × Json) → Bool
  | [], [] => true
  | (name, first) :: rest, (other, last) :: others =>
      name == other && sameValue first last && sameFields rest others
  | _, _ => false

end

mutual

theorem sameValue_iff : ∀ first last : Json, sameValue first last = true ↔ first = last
  | .null, last => by cases last <;> simp [sameValue]
  | .bool value, last => by cases last <;> simp [sameValue]
  | .number value, last => by cases last <;> simp [sameValue]
  | .string text, last => by cases last <;> simp [sameValue]
  | .array items, last => by cases last <;> simp [sameValue, sameItems_iff items]
  | .object fields, last => by cases last <;> simp [sameValue, sameFields_iff fields]

theorem sameItems_iff : ∀ first last : List Json, sameItems first last = true ↔ first = last
  | [], last => by cases last <;> simp [sameItems]
  | value :: rest, last => by
      cases last <;> simp [sameItems, sameValue_iff value, sameItems_iff rest]

theorem sameFields_iff :
    ∀ first last : List (String × Json), sameFields first last = true ↔ first = last
  | [], last => by cases last <;> simp [sameFields]
  | (name, value) :: rest, last => by
      cases last <;>
        simp [sameFields, Prod.ext_iff, sameValue_iff value, sameFields_iff rest]

end

instance : DecidableEq Json := fun first last => decidable_of_iff _ (sameValue_iff first last)

@[simp] theorem get_object (fields : List (String × Json)) (key : String) :
    (Json.object fields).get key = fields.lookup key := rfl

-- A pass over an object that keeps every key keeps the lookups.
theorem lookup_map_values (fields : List (String × Json)) (change : String → Json → Json)
    (key : String) :
    (fields.map fun field => (field.1, change field.1 field.2)).lookup key =
      (fields.lookup key).map (change key) := by
  induction fields with
  | nil => rfl
  | cons field rest ih =>
      obtain ⟨name, value⟩ := field
      by_cases same : key = name
      · subst same
        simp
      · have other : (key == name) = false := by simpa using same
        simp [List.lookup_cons, other, ih]

end Missive.JsonValue
