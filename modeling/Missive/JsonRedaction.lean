import Mathlib.Data.List.TakeWhile
import Missive.JsonValue
import Missive.TextRedaction

/-! The seven JSON redactors. The four of the gateway replace the value under a
secret key and keep all text; the log redactor also redacts text; the CLI output
redactor and the config redactor treat the fields of a `headers` object apart.
-/
namespace Missive.JsonRedaction

open RustText SecretKeys TextRedaction JsonValue

def marker : Json := .string (String.ofList redacted)

def onText (redact : Text → Text) (text : String) : Json := .string (String.ofList (redact text.toList))

section Plain

variable (secret : String → Bool) (text : String → Json)

mutual

/-- `redact_json` of the gateway modules and `redact_json_value` of the logs. -/
def redactPlain : Json → Json
  | .object fields => .object (redactFields fields)
  | .array items => .array (redactItems items)
  | .string value => text value
  | other => other

def redactItems : List Json → List Json
  | [] => []
  | item :: rest => redactPlain item :: redactItems rest

def redactFields : List (String × Json) → List (String × Json)
  | [] => []
  | (key, value) :: rest =>
      (key, if secret key then marker else redactPlain value) :: redactFields rest

end

end Plain

section Headers

-- What a header's text becomes, for a secret and for any other header name.
variable (secret : String → Bool) (text : String → Json) (header : String → Json)

def namesHeaders (key : String) : Bool :=
  let lowerKey := lowercase key.toList
  lowerKey == "headers".toList || lowerKey == "http_headers".toList

mutual

def redactDeep : Json → Json
  | .object fields => .object (redactObject fields)
  | .array items => .array (redactDeepItems items)
  | .string value => text value
  | other => other

def redactDeepItems : List Json → List Json
  | [] => []
  | item :: rest => redactDeep item :: redactDeepItems rest

/-- `redact_json_object` outside a headers context. -/
def redactObject : List (String × Json) → List (String × Json)
  | [] => []
  | (key, value) :: rest =>
      (key,
        if secret key then marker
        else if namesHeaders key then redactHeadersField value
        else redactDeep value) :: redactObject rest

-- The value of a `headers` field. Only an object opens a headers context; the
-- other arms are those of `redactDeep`.
def redactHeadersField : Json → Json
  | .object headers => .object (redactHeaders headers)
  | .array items => .array (redactDeepItems items)
  | .string value => text value
  | other => other

/-- `redact_json_object` inside a headers context. -/
def redactHeaders : List (String × Json) → List (String × Json)
  | [] => []
  | (name, value) :: rest => (name, redactHeaderJsonValue name value) :: redactHeaders rest

/-- `redact_header_json_value`, whose last arm is again `redactDeep` written out. -/
def redactHeaderJsonValue (name : String) : Json → Json
  | .string value => if secret name then header value else text value
  | .object fields => if secret name then marker else .object (redactObject fields)
  | .array items => if secret name then marker else .array (redactDeepItems items)
  | other => if secret name then marker else other

end

end Headers

/-- `str::trim`. -/
def trim (text : Text) : Text :=
  ((text.dropWhile isWhitespace).reverse.dropWhile isWhitespace).reverse

theorem dropWhile_none {text : Text} (solid : ∀ c ∈ text.head?, isWhitespace c = false) :
    text.dropWhile isWhitespace = text := by
  cases text with
  | nil => rfl
  | cons c rest =>
      have first : isWhitespace c = false := solid c rfl
      rw [List.dropWhile_cons_of_neg (by simp [first])]

theorem trim_kept {text : Text} (first : ∀ c ∈ text.head?, isWhitespace c = false)
    (last : ∀ c ∈ text.getLast?, isWhitespace c = false) : trim text = text := by
  have back : text.reverse.dropWhile isWhitespace = text.reverse :=
    dropWhile_none (by rwa [List.head?_reverse])
  rw [trim, dropWhile_none first, back, List.reverse_reverse]

theorem trim_solid {text : Text} (solid : ∀ c ∈ text, isWhitespace c = false) :
    trim text = text := by
  apply trim_kept
  · exact fun c first => solid c (List.mem_of_mem_head? first)
  · exact fun c last => solid c (List.mem_of_mem_getLast? last)

theorem trim_eq_nil {text : Text} : trim text = [] ↔ ∀ c ∈ text, isWhitespace c = true := by
  constructor
  · intro empty c member
    rw [← @List.takeWhile_append_dropWhile _ isWhitespace text] at member
    rcases List.mem_append.mp member with front | back
    · exact List.mem_takeWhile_imp front
    · exact List.dropWhile_eq_nil_iff.mp (List.reverse_eq_nil_iff.mp empty) c
        (List.mem_reverse.mpr back)
  · intro blank
    rw [trim, List.dropWhile_eq_nil_iff.mpr blank]
    rfl

-- `split_once(char::is_whitespace)`, of which only the first part is used.
def beforeWhitespace (text : Text) : Option Text :=
  if text.any isWhitespace then some (text.takeWhile fun c => !isWhitespace c) else none

def isAuthScheme (value : Text) : Bool :=
  ["bearer", "basic", "token", "apikey", "api-key"].any fun scheme =>
    scheme.toList == lowercase value

/-- `redact_header_value` of the config redactor. -/
def configRedactHeaderValue (value : Text) : Text :=
  match beforeWhitespace (trim value) with
  | some scheme => if isAuthScheme scheme then scheme ++ [' '] ++ redacted else redacted
  | none => redacted

/-- `redact_header_value` of the CLI output redactor, with its test for a blank value. -/
def outputRedactHeaderValue (value : Text) : Text :=
  if (trim value).isEmpty then redacted else configRedactHeaderValue value

def outputRedactJson : Json → Json :=
  redactDeep (fun key => outputRule.isSecretKey key.toList) (onText outputRedactText)
    (onText outputRedactHeaderValue)

def redactConfigJson : Json → Json :=
  redactDeep (fun key => configRule.isSecretKey key.toList) (onText redactConfigText)
    (onText configRedactHeaderValue)

def observeRedactJson : Json → Json :=
  redactPlain (fun key => observeRule.isSecretKey key.toList) (onText observeRedactText)

def jobsRedactJson : Json → Json := redactPlain (fun key => jobsRule.isSecretKey key.toList) .string

def subscriptionRedactJson : Json → Json :=
  redactPlain (fun key => subscriptionRule.isSecretKey key.toList) .string

def webhookRedactJson : Json → Json :=
  redactPlain (fun key => webhookRule.isSecretKey key.toList) .string

def daemonRedactJson : Json → Json :=
  redactPlain (fun key => daemonRule.isSecretKey key.toList) .string

example : outputRedactJson (.object [("headers", .object [("Authorization", .string "Bearer abc")]),
      ("token", .nat 7)]) =
    .object [("headers", .object [("Authorization", .string "Bearer [REDACTED]")]),
      ("token", .string "[REDACTED]")] := rfl

/-- Whatever object the redactor is given, the value under the key is replaced. -/
def Replaces (redact : Json → Json) (key : String) : Prop :=
  ∀ fields value, fields.lookup key = some value →
    (redact (.object fields)).get key = some marker

theorem redact_fields_map (secret : String → Bool) (text : String → Json)
    (fields : List (String × Json)) :
    redactFields secret text fields = fields.map fun field =>
      (field.1, if secret field.1 then marker else redactPlain secret text field.2) := by
  induction fields with
  | nil => rfl
  | cons field rest ih => simp [redactFields, ih]

theorem redact_object_secret (secret : String → Bool) (text header : String → Json)
    (fields : List (String × Json)) (key : String) (hit : secret key = true) :
    (redactObject secret text header fields).lookup key =
      (fields.lookup key).map fun _ => marker := by
  induction fields with
  | nil => rfl
  | cons field rest ih =>
      obtain ⟨name, value⟩ := field
      by_cases same : key = name
      · subst same
        simp [redactObject, hit]
      · have other : (key == name) = false := by simpa using same
        rw [redactObject]
        simp only [List.lookup_cons, other, ih]

-- A key that is not secret keeps at least the value `null`.
theorem plain_replaces_iff (secret : String → Bool) (text : String → Json) (key : String) :
    Replaces (redactPlain secret text) key ↔ secret key = true := by
  constructor
  · intro replaced
    by_contra missed
    have kept := replaced [(key, .null)] .null (by simp)
    simp [redactPlain, redactFields, missed, marker] at kept
  · intro hit fields value found
    simp only [redactPlain, get_object, redact_fields_map]
    rw [lookup_map_values fields fun name value =>
      if secret name then marker else redactPlain secret text value, found]
    simp [hit]

theorem deep_replaces_iff (secret : String → Bool) (text header : String → Json) (key : String) :
    Replaces (redactDeep secret text header) key ↔ secret key = true := by
  constructor
  · intro replaced
    by_contra missed
    have kept := replaced [(key, .null)] .null (by simp)
    simp [redactDeep, redactObject, redactHeadersField, missed, marker] at kept
  · intro hit fields value found
    rw [redactDeep, get_object, redact_object_secret secret text header fields key hit, found]
    rfl

/-! The rules of the four gateway redactors all contain the words of the job
redactor, and the job redactor knows no others. -/

theorem jobs_secret_iff (normalized : Text) :
    jobsRule.isSecretKeyNormalized normalized = true ↔
      normalized ∈ jobsRule.words.map String.toList := by
  rw [secret_key_iff]
  constructor
  · rintro (listed | ⟨_, none, _⟩ | ⟨_, none, _⟩)
    · exact listed
    · exact absurd none List.not_mem_nil
    · exact absurd none List.not_mem_nil
  · exact Or.inl

theorem output_secret_iff (normalized : Text) :
    outputRule.isSecretKeyNormalized normalized = true ↔
      normalized ∈ outputRule.words.map String.toList ∨
        ∃ word ∈ outputRule.suffixes, word.toList <:+ normalized := by
  rw [secret_key_iff]
  constructor
  · rintro (listed | suffix | ⟨_, none, _⟩)
    · exact Or.inl listed
    · exact Or.inr suffix
    · exact absurd none List.not_mem_nil
  · rintro (listed | suffix)
    · exact Or.inl listed
    · exact Or.inr (Or.inl suffix)

theorem gateway_rules_contain_jobs (normalized : Text)
    (listed : jobsRule.isSecretKeyNormalized normalized = true) :
    subscriptionRule.isSecretKeyNormalized normalized = true ∧
      webhookRule.isSecretKeyNormalized normalized = true ∧
      daemonRule.isSecretKeyNormalized normalized = true := by
  have member : normalized ∈ jobsRule.words.map String.toList := (jobs_secret_iff normalized).mp listed
  have checked : ∀ word ∈ jobsRule.words.map String.toList,
      subscriptionRule.isSecretKeyNormalized word = true ∧
        webhookRule.isSecretKeyNormalized word = true ∧
        daemonRule.isSecretKeyNormalized word = true := by
    decide
  exact checked normalized member

/-- The key is spelled, up to case and punctuation, as one of the job redactor's
words, or neither listed nor ended by a secret word in the CLI's rule. -/
def AgreedKey (key : String) : Prop :=
  normalizeKey key.toList ∈ jobsRule.words.map String.toList ∨
    (normalizeKey key.toList ∉ outputRule.words.map String.toList ∧
      ∀ word ∈ outputRule.suffixes, ¬ word.toList <:+ normalizeKey key.toList)

def FrontReplaces (key : String) : Prop :=
  Replaces outputRedactJson key ∨ Replaces redactConfigJson key ∨ Replaces observeRedactJson key

def GatewayReplaces (key : String) : Prop :=
  Replaces jobsRedactJson key ∧ Replaces subscriptionRedactJson key ∧
    Replaces webhookRedactJson key ∧ Replaces daemonRedactJson key

theorem front_replaces_iff (key : String) :
    FrontReplaces key ↔ outputRule.isSecretKey key.toList = true := by
  simp only [FrontReplaces, outputRedactJson, redactConfigJson, observeRedactJson,
    deep_replaces_iff, plain_replaces_iff]
  -- the three copies of the rule have the same words and suffixes
  exact ⟨fun any => any.elim id (fun rest => rest.elim id id), Or.inl⟩

theorem gateway_replaces_iff (key : String) :
    GatewayReplaces key ↔ jobsRule.isSecretKey key.toList = true := by
  simp only [GatewayReplaces, jobsRedactJson, subscriptionRedactJson, webhookRedactJson,
    daemonRedactJson, plain_replaces_iff]
  constructor
  · intro all
    exact all.1
  · intro listed
    exact ⟨listed, gateway_rules_contain_jobs _ listed⟩

/-- Where the CLI, the config or the log redactor replaces the value under a key,
all four gateway redactors do, exactly for the agreed keys. -/
theorem gateway_follows_front_iff (key : String) :
    (FrontReplaces key → GatewayReplaces key) ↔ AgreedKey key := by
  rw [front_replaces_iff, gateway_replaces_iff, KeyRule.isSecretKey, KeyRule.isSecretKey,
    output_secret_iff, jobs_secret_iff, AgreedKey]
  constructor
  · intro follows
    by_cases listed : normalizeKey key.toList ∈ jobsRule.words.map String.toList
    · exact Or.inl listed
    · refine Or.inr ⟨fun word => listed (follows (Or.inl word)), ?_⟩
      intro word member suffix
      exact listed (follows (Or.inr ⟨word, member, suffix⟩))
  · rintro (listed | ⟨unlisted, unended⟩) front
    · exact listed
    · rcases front with word | ⟨word, member, suffix⟩
      · exact absurd word unlisted
      · exact absurd suffix (unended word member)

theorem passwd_not_followed :
    ¬ (FrontReplaces "passwd" → GatewayReplaces "passwd") := by
  rw [front_replaces_iff, gateway_replaces_iff]
  decide

end Missive.JsonRedaction
