import Mathlib.Data.List.DropRight
import Missive.JsonRedaction

/-! What the redactors of the command line and of the config let through. Two values that
differ only under secret keys are redacted alike; under a secret header name the redactors
keep the auth scheme, so there the schemes must agree. Outside secret keys the shape of a
value is kept. -/
namespace Missive.RedactionNoninterference

open RustText SecretKeys TextRedaction JsonValue JsonRedaction

/-! The auth scheme of a header text. -/

-- The scheme that the redactors keep.
def carriedScheme (value : Text) : Option Text :=
  (beforeWhitespace (trim value)).filter isAuthScheme

/-- The text is a recognised scheme, white space, and something that is not blank. -/
def Carries (scheme value : Text) : Prop :=
  isAuthScheme scheme = true ∧ ∃ lead gap rest, lead.all isWhitespace = true ∧
    isWhitespace gap = true ∧ rest.all isWhitespace = false ∧ value = lead ++ scheme ++ gap :: rest

theorem configRedactHeaderValue_scheme (value : Text) :
    configRedactHeaderValue value =
      (carriedScheme value).elim redacted fun scheme => scheme ++ [' '] ++ redacted := by
  unfold configRedactHeaderValue carriedScheme
  cases beforeWhitespace (trim value) with
  | none => rfl
  | some scheme =>
      by_cases known : isAuthScheme scheme = true
      · simp [Option.filter, known]
      · simp [Option.filter, known]

theorem outputRedactHeaderValue_scheme (value : Text) :
    outputRedactHeaderValue value =
      (carriedScheme value).elim redacted fun scheme => scheme ++ [' '] ++ redacted := by
  unfold outputRedactHeaderValue
  by_cases blank : (trim value).isEmpty = true
  · rw [if_pos blank, carriedScheme, List.isEmpty_iff.mp blank]
    rfl
  · rw [if_neg blank]
    exact configRedactHeaderValue_scheme value

theorem whitespace_not_uppercase {c : Char} (space : isWhitespace c = true) :
    isAsciiUppercase c = false := by
  simp only [isWhitespace, isAsciiUppercase, Bool.or_eq_true, Bool.and_eq_true, decide_eq_true_eq,
    beq_iff_eq, Bool.and_eq_false_iff, decide_eq_false_iff_not] at space ⊢
  omega

-- White space is no part of a scheme.
theorem scheme_solid {scheme : Text} (known : isAuthScheme scheme = true) :
    scheme ≠ [] ∧ ∀ c ∈ scheme, isWhitespace c = false := by
  have solid : ∀ word ∈ ["bearer", "basic", "token", "apikey", "api-key"],
      word.toList ≠ [] ∧ ∀ c ∈ word.toList, isWhitespace c = false := by simp [isWhitespace]
  obtain ⟨word, listed, same⟩ := List.any_eq_true.mp known
  have lowered : word.toList = lowercase scheme := by simpa using same
  obtain ⟨inhabited, letters⟩ := solid word listed
  constructor
  · rintro rfl
    exact inhabited lowered
  · intro c member
    by_contra space
    have space := Bool.of_not_eq_false space
    have kept : toAsciiLowercase c = c := by
      rw [toAsciiLowercase, if_neg (by simp [whitespace_not_uppercase space])]
    have there : c ∈ word.toList := by
      rw [lowered]
      exact List.mem_map.mpr ⟨c, member, kept⟩
    rw [letters c there] at space
    cases space

theorem trim_carried {lead scheme rest : Text} {gap : Char} (blank : lead.all isWhitespace = true)
    (known : isAuthScheme scheme = true) (shown : rest.all isWhitespace = false) :
    trim (lead ++ scheme ++ gap :: rest) =
      scheme ++ gap :: (rest.reverse.dropWhile isWhitespace).reverse := by
  obtain ⟨inhabited, solid⟩ := scheme_solid known
  have front : (lead ++ scheme ++ gap :: rest).dropWhile isWhitespace = scheme ++ gap :: rest := by
    rw [List.append_assoc, List.dropWhile_append_of_pos (List.all_eq_true.mp blank)]
    apply dropWhile_none
    cases scheme with
    | nil => exact absurd rfl inhabited
    | cons c others =>
        intro d first
        cases first
        exact solid c (List.mem_cons_self ..)
  have stays : (rest.reverse.dropWhile isWhitespace).isEmpty = false := by
    by_contra emptied
    have none : rest.reverse.dropWhile isWhitespace = [] := by simpa using emptied
    have all : rest.all isWhitespace = true := by
      have spaces := List.dropWhile_eq_nil_iff.mp none
      exact List.all_eq_true.mpr fun c member => spaces c (List.mem_reverse.mpr member)
    rw [shown] at all
    cases all
  rw [trim, front, List.reverse_append, List.reverse_cons, List.append_assoc, List.dropWhile_append,
    stays]
  simp

theorem carriedScheme_carries {scheme value : Text} (carries : Carries scheme value) :
    carriedScheme value = some scheme := by
  obtain ⟨known, lead, gap, rest, blank, space, shown, rfl⟩ := carries
  obtain ⟨inhabited, solid⟩ := scheme_solid known
  have taken (tail : Text) : (scheme ++ gap :: tail).takeWhile (fun c => !isWhitespace c) = scheme := by
    rw [List.takeWhile_append_of_pos (by simpa using solid)]
    simp [space]
  rw [carriedScheme, trim_carried blank known shown, beforeWhitespace, if_pos (by simp [space]), taken]
  simp [Option.filter, known]

-- What `trim` leaves ends in something that is no white space, and is a part of the text.
theorem trim_parts (value : Text) :
    ∃ lead tail, lead.all isWhitespace = true ∧ value = lead ++ trim value ++ tail ∧
      ∀ c ∈ (trim value).getLast?, isWhitespace c = false := by
  obtain ⟨tail, split⟩ := List.rdropWhile_prefix isWhitespace (value.dropWhile isWhitespace)
  refine ⟨value.takeWhile isWhitespace, tail, List.all_takeWhile, ?_, ?_⟩
  · rw [List.append_assoc, trim]
    change value = _ ++ (List.rdropWhile isWhitespace _ ++ tail)
    rw [split, List.takeWhile_append_dropWhile]
  · intro c last
    have ends := List.getLast?_eq_some_iff.mp last
    have inhabited : trim value ≠ [] := by
      obtain ⟨front, shown⟩ := ends
      simp [shown]
    have closing := List.rdropWhile_last_not isWhitespace (value.dropWhile isWhitespace) inhabited
    rw [List.getLast?_eq_getLast_of_ne_nil inhabited] at last
    cases last
    exact Bool.eq_false_iff.mpr closing

theorem split_at_space {text : Text} (spaced : text.any isWhitespace = true) :
    ∃ gap rest, isWhitespace gap = true ∧
      text = (text.takeWhile fun c => !isWhitespace c) ++ gap :: rest := by
  have whole := List.takeWhile_append_dropWhile (l := text) (p := fun c => !isWhitespace c)
  have first := text.head?_dropWhile_not fun c => !isWhitespace c
  cases left : text.dropWhile fun c => !isWhitespace c with
  | nil =>
      have solid := List.dropWhile_eq_nil_iff.mp left
      obtain ⟨c, member, space⟩ := List.any_eq_true.mp spaced
      have other := solid c member
      rw [space] at other
      cases other
  | cons gap rest =>
      rw [left] at first whole
      exact ⟨gap, rest, by simpa using first, whole.symm⟩

theorem carries_carriedScheme {scheme value : Text} (carried : carriedScheme value = some scheme) :
    Carries scheme value := by
  obtain ⟨found, known⟩ := Option.filter_eq_some_iff.mp carried
  obtain ⟨lead, tail, blank, split, ended⟩ := trim_parts value
  unfold beforeWhitespace at found
  by_cases spaced : (trim value).any isWhitespace = true
  · rw [if_pos spaced] at found
    obtain ⟨gap, rest, space, parts⟩ := split_at_space spaced
    cases found
    refine ⟨known, lead, gap, rest ++ tail, blank, space, ?_, ?_⟩
    · -- the text after the gap holds the last character
      cases rest with
      | nil =>
          rw [parts] at ended
          rw [ended gap (by simp)] at space
          cases space
      | cons next others =>
          have last := List.getLast_mem (List.cons_ne_nil next others)
          have solid := ended ((next :: others).getLast (List.cons_ne_nil next others)) (by
            rw [parts]
            simp [List.getLast?_eq_some_getLast])
          by_contra all
          have spaces := List.all_eq_true.mp (Bool.of_not_eq_false all) _
            (List.mem_append_left tail last)
          rw [spaces] at solid
          cases solid
    · calc value = lead ++ trim value ++ tail := split
        _ = lead ++ ((trim value).takeWhile (fun c => !isWhitespace c) ++ gap :: rest) ++ tail := by
            rw [← parts]
        _ = _ := by simp
  · rw [if_neg spaced] at found
    cases found

theorem carriedScheme_iff {scheme value : Text} :
    carriedScheme value = some scheme ↔ Carries scheme value :=
  ⟨carries_carriedScheme, carriedScheme_carries⟩

/-! Values that are equal except under secret keys. -/

section Alike

variable (secret : String → Bool) (sameHeader : Json → Json → Prop)

def isObject : Json → Bool
  | .object _ => true
  | _ => false

mutual

inductive Alike : Json → Json → Prop where
  | same (value : Json) : Alike value value
  | array {first last : List Json} (items : AlikeItems first last) :
      Alike (.array first) (.array last)
  | object {first last : List (String × Json)} (fields : AlikeFields first last) :
      Alike (.object first) (.object last)

inductive AlikeItems : List Json → List Json → Prop where
  | nil : AlikeItems [] []
  | cons {first last : Json} {rest others : List Json} (item : Alike first last)
      (items : AlikeItems rest others) : AlikeItems (first :: rest) (last :: others)

/-- The fields of an object: anything may stand under a secret key, and the object under a
`headers` key is a header map. -/
inductive AlikeFields : List (String × Json) → List (String × Json) → Prop where
  | nil : AlikeFields [] []
  | hidden {key : String} {first last : Json} {rest others : List (String × Json)}
      (hit : secret key = true) (fields : AlikeFields rest others) :
      AlikeFields ((key, first) :: rest) ((key, last) :: others)
  | headers {key : String} {first last rest others : List (String × Json)}
      (named : namesHeaders key = true) (map : AlikeHeaders first last)
      (fields : AlikeFields rest others) :
      AlikeFields ((key, .object first) :: rest) ((key, .object last) :: others)
  | field {key : String} {first last : Json} {rest others : List (String × Json)}
      (plain : namesHeaders key = true → isObject first = false) (value : Alike first last)
      (fields : AlikeFields rest others) :
      AlikeFields ((key, first) :: rest) ((key, last) :: others)

inductive AlikeHeaders : List (String × Json) → List (String × Json) → Prop where
  | nil : AlikeHeaders [] []
  | hidden {name : String} {first last : Json} {rest others : List (String × Json)}
      (hit : secret name = true) (header : sameHeader first last)
      (fields : AlikeHeaders rest others) :
      AlikeHeaders ((name, first) :: rest) ((name, last) :: others)
  | field {name : String} {first last : Json} {rest others : List (String × Json)}
      (shown : secret name = false) (value : Alike first last)
      (fields : AlikeHeaders rest others) :
      AlikeHeaders ((name, first) :: rest) ((name, last) :: others)

end

end Alike

/-- Under a secret header name the redactor does not tell apart what is related. -/
def Blind (secret : String → Bool) (sameHeader : Json → Json → Prop) (text header : String → Json) :
    Prop :=
  ∀ name first last, secret name = true → sameHeader first last →
    redactHeaderJsonValue secret text header name first =
      redactHeaderJsonValue secret text header name last

section Noninterference

variable {secret : String → Bool} {sameHeader : Json → Json → Prop} {text header : String → Json}

-- A header that is not secret is redacted as any other value.
theorem header_shown {name : String} (shown : secret name = false) (value : Json) :
    redactHeaderJsonValue secret text header name value = redactDeep secret text header value := by
  cases value <;> simp [redactHeaderJsonValue, redactDeep, shown]

theorem headers_plain {value : Json} (plain : isObject value = false) :
    redactHeadersField secret text header value = redactDeep secret text header value := by
  cases value with
  | object fields => cases plain
  | _ => rfl

theorem alike_isObject {first last : Json} (alike : Alike secret sameHeader first last) :
    isObject first = isObject last := by
  cases alike <;> rfl

theorem field_redacted {key : String} {first last : Json}
    (plain : namesHeaders key = true → isObject first = false) (alike : isObject first = isObject last)
    (same : redactDeep secret text header first = redactDeep secret text header last) :
    (if namesHeaders key then redactHeadersField secret text header first
      else redactDeep secret text header first) =
      if namesHeaders key then redactHeadersField secret text header last
        else redactDeep secret text header last := by
  by_cases named : namesHeaders key = true
  · rw [if_pos named, if_pos named, headers_plain (plain named),
      headers_plain (alike ▸ plain named), same]
  · rw [if_neg named, if_neg named, same]

mutual

theorem alike_redacted (blind : Blind secret sameHeader text header) {first last : Json} :
    Alike secret sameHeader first last →
      redactDeep secret text header first = redactDeep secret text header last
  | .same value => rfl
  | .array items => congrArg Json.array (alike_items blind items)
  | .object fields => congrArg Json.object (alike_fields blind fields)

theorem alike_items (blind : Blind secret sameHeader text header) {first last : List Json} :
    AlikeItems secret sameHeader first last →
      redactDeepItems secret text header first = redactDeepItems secret text header last
  | .nil => rfl
  | .cons item items => congrArg₂ List.cons (alike_redacted blind item) (alike_items blind items)

theorem alike_fields (blind : Blind secret sameHeader text header)
    {first last : List (String × Json)} :
    AlikeFields secret sameHeader first last →
      redactObject secret text header first = redactObject secret text header last
  | .nil => rfl
  | .hidden hit fields => by
      rw [redactObject, redactObject, if_pos hit, if_pos hit, alike_fields blind fields]
  | .headers named map fields => by
      simp only [redactObject, named, if_true, redactHeadersField, alike_headers blind map,
        alike_fields blind fields]
  | .field plain value fields => by
      rw [redactObject, redactObject, alike_fields blind fields,
        field_redacted plain (alike_isObject value) (alike_redacted blind value)]

theorem alike_headers (blind : Blind secret sameHeader text header)
    {first last : List (String × Json)} :
    AlikeHeaders secret sameHeader first last →
      redactHeaders secret text header first = redactHeaders secret text header last
  | .nil => rfl
  | .hidden hit same fields => by
      rw [redactHeaders, redactHeaders, blind _ _ _ hit same, alike_headers blind fields]
  | .field shown value fields => by
      rw [redactHeaders, redactHeaders, header_shown shown, header_shown shown,
        alike_redacted blind value, alike_headers blind fields]

end

end Noninterference

/-! Shapes. -/

inductive PathStep where
  | key (name : String)
  | index (position : Nat)

def child : Json → PathStep → Option Json
  | .object fields, .key name => fields.lookup name
  | .array items, .index position => items[position]?
  | _, _ => none

def follow : Json → List PathStep → Option Json
  | value, [] => some value
  | value, step :: rest => (child value step).bind fun inner => follow inner rest

inductive Shape where
  | keys (names : List String)
  | length (count : Nat)
  | leaf
  deriving DecidableEq

def shape : Json → Shape
  | .object fields => .keys (fields.map Prod.fst)
  | .array items => .length items.length
  | _ => .leaf

def shapeAt (value : Json) (path : List PathStep) : Option Shape := (follow value path).map shape

section Shapes

variable (secret : String → Bool) (text header : String → Json)

def redactFieldsIn (headersContext : Bool) (fields : List (String × Json)) : List (String × Json) :=
  if headersContext then redactHeaders secret text header fields
  else redactObject secret text header fields

-- A value as it is redacted in a field that may open a header map.
def redactIn (opensHeaders : Bool) (value : Json) : Json :=
  if opensHeaders then redactHeadersField secret text header value
  else redactDeep secret text header value

theorem redactDeepItems_map (items : List Json) :
    redactDeepItems secret text header items = items.map (redactDeep secret text header) := by
  induction items with
  | nil => rfl
  | cons item rest ih => rw [redactDeepItems, ih, List.map_cons]

theorem redactIn_object (opensHeaders : Bool) (fields : List (String × Json)) :
    redactIn secret text header opensHeaders (.object fields) =
      .object (redactFieldsIn secret text header opensHeaders fields) := by
  cases opensHeaders <;> rfl

theorem redactIn_array (opensHeaders : Bool) (items : List Json) :
    redactIn secret text header opensHeaders (.array items) =
      .array (items.map (redactIn secret text header false)) := by
  have inside : items.map (redactIn secret text header false) =
      redactDeepItems secret text header items :=
    (redactDeepItems_map secret text header items).symm
  rw [inside]
  cases opensHeaders <;> rfl

theorem redactFieldsIn_keys (headersContext : Bool) (fields : List (String × Json)) :
    (redactFieldsIn secret text header headersContext fields).map Prod.fst =
      fields.map Prod.fst := by
  induction fields with
  | nil => cases headersContext <;> rfl
  | cons field rest ih =>
      cases headersContext with
      | true => exact congrArg (field.1 :: ·) ih
      | false => exact congrArg (field.1 :: ·) ih

theorem redactFieldsIn_lookup (headersContext : Bool) (fields : List (String × Json))
    {key : String} (shown : secret key = false) :
    (redactFieldsIn secret text header headersContext fields).lookup key =
      (fields.lookup key).map
        (redactIn secret text header (!headersContext && namesHeaders key)) := by
  induction fields with
  | nil => cases headersContext <;> rfl
  | cons field rest ih =>
      obtain ⟨name, value⟩ := field
      by_cases same : key = name
      · subst same
        cases headersContext with
        | true => simp [redactFieldsIn, redactHeaders, header_shown shown, redactIn]
        | false => simp [redactFieldsIn, redactObject, shown, redactIn]
      · have other : (key == name) = false := by simpa using same
        rw [List.lookup_cons, other, ← ih]
        cases headersContext with
        | true => simp [redactFieldsIn, redactHeaders, List.lookup_cons, other]
        | false => simp [redactFieldsIn, redactObject, List.lookup_cons, other]

theorem redactIn_leaf (leaves : ∀ value, shape (text value) = .leaf) (opensHeaders : Bool)
    {value : Json} (plain : shape value = .leaf) :
    shape (redactIn secret text header opensHeaders value) = .leaf := by
  cases value with
  | object fields => cases plain
  | array items => cases plain
  | string text' => cases opensHeaders <;> exact leaves text'
  | _ => cases opensHeaders <;> rfl

theorem shape_redactIn (leaves : ∀ value, shape (text value) = .leaf) (opensHeaders : Bool)
    (value : Json) : shape (redactIn secret text header opensHeaders value) = shape value := by
  cases value with
  | object fields =>
      rw [redactIn_object]
      exact congrArg Shape.keys (redactFieldsIn_keys secret text header opensHeaders fields)
  | array items =>
      rw [redactIn_array]
      exact congrArg Shape.length (List.length_map _)
  | _ => exact redactIn_leaf secret text header leaves opensHeaders rfl

theorem child_leaf {value : Json} (plain : shape value = .leaf) (step : PathStep) :
    child value step = none := by
  cases value with
  | object fields => cases plain
  | array items => cases plain
  | _ => cases step <;> rfl

-- One step into a redacted value leads to the redacted inner value.
theorem child_redactIn (leaves : ∀ value, shape (text value) = .leaf) (opensHeaders : Bool)
    (value : Json) {step : PathStep} (shown : ∀ name, step = .key name → secret name = false) :
    ∃ inside, child (redactIn secret text header opensHeaders value) step =
      (child value step).map (redactIn secret text header inside) := by
  cases value with
  | object fields =>
      rw [redactIn_object]
      cases step with
      | key name => exact ⟨_, redactFieldsIn_lookup secret text header _ _ (shown name rfl)⟩
      | index position => exact ⟨false, rfl⟩
  | array items =>
      rw [redactIn_array]
      cases step with
      | key name => exact ⟨false, rfl⟩
      | index position => exact ⟨false, List.getElem?_map⟩
  | _ =>
      refine ⟨false, ?_⟩
      rw [child_leaf (redactIn_leaf secret text header leaves opensHeaders rfl),
        child_leaf (by rfl)]
      rfl

theorem shapeAt_redactIn (leaves : ∀ value, shape (text value) = .leaf) (path : List PathStep)
    (shown : ∀ name, .key name ∈ path → secret name = false) (opensHeaders : Bool) (value : Json) :
    shapeAt (redactIn secret text header opensHeaders value) path = shapeAt value path := by
  induction path generalizing opensHeaders value with
  | nil => exact congrArg some (shape_redactIn secret text header leaves opensHeaders value)
  | cons step rest ih =>
      have here (name : String) (same : step = .key name) : secret name = false :=
        shown name (same ▸ List.mem_cons_self ..)
      obtain ⟨inside, stepped⟩ := child_redactIn secret text header leaves opensHeaders value here
      have later : ∀ name, .key name ∈ rest → secret name = false :=
        fun name member => shown name (List.mem_cons_of_mem step member)
      unfold shapeAt follow
      rw [stepped]
      cases child value step with
      | none => rfl
      | some inner => exact ih later inside inner

end Shapes

/-! The two redactors. -/

def outputSecret (key : String) : Bool := outputRule.isSecretKey key.toList

def configSecret (key : String) : Bool := configRule.isSecretKey key.toList

-- A value under a secret header name, and the scheme it carries if it is a text.
def HeaderCarries (scheme : Text) : Json → Prop
  | .string text => Carries scheme text.toList
  | _ => False

def SameScheme (first last : Json) : Prop :=
  ∀ scheme, HeaderCarries scheme first ↔ HeaderCarries scheme last

def headerScheme : Json → Option Text
  | .string text => carriedScheme text.toList
  | _ => none

theorem headerScheme_iff {scheme : Text} (value : Json) :
    headerScheme value = some scheme ↔ HeaderCarries scheme value := by
  cases value with
  | string text => exact carriedScheme_iff
  | _ => simp [headerScheme, HeaderCarries]

theorem headerScheme_same {first last : Json} (same : SameScheme first last) :
    headerScheme first = headerScheme last := by
  apply Option.ext
  intro scheme
  exact (headerScheme_iff first).trans ((same scheme).trans (headerScheme_iff last).symm)

theorem header_hidden {secret : String → Bool} {text : String → Json} {redact : Text → Text}
    (keeps : ∀ value, redact value =
      (carriedScheme value).elim redacted fun scheme => scheme ++ [' '] ++ redacted)
    {name : String} (hit : secret name = true) (value : Json) :
    redactHeaderJsonValue secret text (onText redact) name value =
      .string (String.ofList
        ((headerScheme value).elim redacted fun scheme => scheme ++ [' '] ++ redacted)) := by
  cases value with
  | string value =>
      rw [redactHeaderJsonValue, if_pos hit, onText, keeps]
      rfl
  | _ => simp [redactHeaderJsonValue, hit, headerScheme, marker]

theorem blind {secret : String → Bool} {text : String → Json} {redact : Text → Text}
    (keeps : ∀ value, redact value =
      (carriedScheme value).elim redacted fun scheme => scheme ++ [' '] ++ redacted) :
    Blind secret SameScheme text (onText redact) := by
  intro name first last hit same
  rw [header_hidden keeps hit, header_hidden keeps hit, headerScheme_same same]

/-- Both redactors are blind to what stands under secret keys, up to the schemes of header texts
that go with credentials, and keep the shape of everything else. -/
theorem redaction_noninterference :
    (∀ first last, Alike outputSecret SameScheme first last →
      outputRedactJson first = outputRedactJson last) ∧
    (∀ first last, Alike configSecret SameScheme first last →
      redactConfigJson first = redactConfigJson last) ∧
    (∀ value path, (∀ name, .key name ∈ path → outputSecret name = false) →
      shapeAt (outputRedactJson value) path = shapeAt value path) ∧
    ∀ value path, (∀ name, .key name ∈ path → configSecret name = false) →
      shapeAt (redactConfigJson value) path = shapeAt value path :=
  ⟨fun _ _ alike => alike_redacted (blind outputRedactHeaderValue_scheme) alike,
    fun _ _ alike => alike_redacted (blind configRedactHeaderValue_scheme) alike,
    fun value path shown => shapeAt_redactIn outputSecret _ _ (fun _ => rfl) path shown false value,
    fun value path shown => shapeAt_redactIn configSecret _ _ (fun _ => rfl) path shown false value⟩

def headed (text : String) : Json :=
  .object [("headers", .object [("Authorization", .string text)])]

theorem headed_alike (sameHeader : Json → Json → Prop) (first last : String)
    (same : sameHeader (.string first) (.string last)) :
    Alike outputSecret sameHeader (headed first) (headed last) :=
  .object (.headers (by decide) (.hidden (by decide) same .nil) .nil)

theorem redaction_noninterference_bearer :
    outputRedactJson (headed "Bearer abc") = outputRedactJson (headed "Bearer xyz") := by
  apply redaction_noninterference.1
  apply headed_alike
  intro scheme
  rw [← headerScheme_iff, ← headerScheme_iff]
  exact Iff.of_eq (congrArg (· = some scheme) (by decide))

/-! A scheme without credentials is no scheme to the redactors. -/

def Starts (scheme : Text) : Json → Prop
  | .string text => isAuthScheme scheme = true ∧ ∃ lead gap rest, lead.all isWhitespace = true ∧
      isWhitespace gap = true ∧ text.toList = lead ++ scheme ++ gap :: rest
  | _ => False

-- The texts are equal up to the white space after a recognised scheme.
def DifferAfterScheme : Json → Json → Prop
  | .string first, .string last => ∃ lead scheme gap rest others, isAuthScheme scheme = true ∧
      lead.all isWhitespace = true ∧ isWhitespace gap = true ∧
      first.toList = lead ++ scheme ++ gap :: rest ∧ last.toList = lead ++ scheme ++ gap :: others
  | _, _ => False

def EqualButCredentials (first last : Json) : Prop :=
  DifferAfterScheme first last ∨ ∀ scheme, ¬ Starts scheme first ∧ ¬ Starts scheme last

theorem bare_scheme_redacted :
    ¬ ∀ first last, Alike outputSecret EqualButCredentials first last →
      outputRedactJson first = outputRedactJson last := by
  intro claim
  have same : EqualButCredentials (.string "Bearer ") (.string "Bearer abc") :=
    Or.inl ⟨[], "Bearer".toList, ' ', [], "abc".toList, by decide⟩
  have equal := claim _ _ (headed_alike _ "Bearer " "Bearer abc" same)
  exact absurd equal (by decide)

end Missive.RedactionNoninterference
