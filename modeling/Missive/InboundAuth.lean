import Mathlib.Algebra.GroupWithZero.Nat
import Mathlib.Data.Nat.Bitwise
import Missive.ByteLines
import Missive.HttpControl

/-! Inbound authentication. The HTTP adapter and the webhook receiver compare the value of one
header with the configured scheme and token, each by its own copy of the same comparison. -/
namespace Missive.InboundAuth

open Missive.Core HttpControl

/-! The configuration and its check. -/

def authError (detail : String) : MissiveError := ⟨.auth, detail, none⟩

def validateHeaderName (crates : Crates) (component sample name : String) :
    Except MissiveError Unit :=
  if (JsonRedaction.trim name.toList).isEmpty then
    .error (MissiveError.validation s!"{component} auth header name cannot be empty")
  else
    match crates.headerName name with
    | some _ => .ok ()
    | none =>
        .error ((MissiveError.validation
          s!"{component} auth header name is not a valid HTTP header name").withHelp
          s!"Use an ASCII HTTP header name such as Authorization or {sample}.")

def validateAuthScheme (component scheme : String) : Except MissiveError Unit :=
  if (JsonRedaction.trim scheme.toList).isEmpty then
    .error (MissiveError.validation
      s!"{component} auth scheme cannot be empty; use 'none' for a raw token comparison")
  else if scheme.toList.any RustText.isWhitespace || scheme.toList.any RustText.isControl then
    .error (MissiveError.validation
      s!"{component} auth scheme must not contain whitespace or control characters")
  else .ok ()

def validateHeader (crates : Crates) (component sample name token : String)
    (scheme : Option String) : Except MissiveError Unit := do
  validateHeaderName crates component sample name
  if token.isEmpty then
    throw (authError
      s!"{component} auth token cannot be empty when auth validation is enabled")
  match scheme with
  | some scheme => validateAuthScheme component scheme
  | none => .ok ()

def HttpInboundAuth.validate (crates : Crates) : HttpInboundAuth → Except MissiveError Unit
  | .disabled => .ok ()
  | .header name token scheme =>
      validateHeader crates "HTTP adapter" "X-Missive-Token" name token scheme

/-! The webhook receiver. -/

namespace Webhook

inductive WebhookAuth where
  | disabled
  | header (name token : String) (scheme : Option String)

def WebhookAuth.validate (crates : Crates) : WebhookAuth → Except MissiveError Unit
  | .disabled => .ok ()
  | .header name token scheme =>
      validateHeader crates "webhook" "X-Webhook-Token" name token scheme

def expectedAuthHeaderValue (scheme : Option String) (token : String) : String :=
  HttpControl.expectedAuthHeaderValue scheme token

def constantTimeEq (left right : List UInt8) : Bool := HttpControl.constantTimeEq left right

-- The method is that of the HTTP adapter, word for word.
def WebhookAuth.validateHeaders (crates : Crates) (headers : List (String × List UInt8)) :
    WebhookAuth → Except String Bool
  | .disabled => .ok false
  | .header name token scheme =>
      match crates.headerName name with
      | none => .error s!"configured auth header {debug name} is invalid"
      | some headerName =>
          match headers.lookup headerName with
          | none => .error s!"missing required auth header {name}"
          | some actual =>
              match crates.toStr actual with
              | none => .error s!"auth header {name} contains non-UTF-8 data"
              | some actual =>
                  if constantTimeEq actual.toUTF8.toList
                      (expectedAuthHeaderValue scheme token).toUTF8.toList then .ok true
                  else .error s!"auth header {name} did not match the configured token"

theorem validateHeaders_shared (crates : Crates) (headers : List (String × List UInt8))
    (name token : String) (scheme : Option String) :
    (WebhookAuth.header name token scheme).validateHeaders crates headers =
      HttpInboundAuth.validateHeaders crates headers (.header name token scheme) := rfl

end Webhook

/-! The comparison. -/

-- The accumulator keeps every bit it has taken in.
theorem fold_or_eq_zero {Index : Type} (part : Index → Nat) (indices : List Index) (diff : Nat) :
    indices.foldl (fun diff index => diff ||| part index) diff = 0 ↔
      diff = 0 ∧ ∀ index ∈ indices, part index = 0 := by
  induction indices generalizing diff with
  | nil => simp
  | cons index rest ih =>
      rw [List.foldl_cons, ih, Nat.or_eq_zero_iff, List.forall_mem_cons, and_assoc]

theorem constantTimeEq_iff (left right : List UInt8) :
    HttpControl.constantTimeEq left right = true ↔ left = right := by
  rw [HttpControl.constantTimeEq, beq_iff_eq, fold_or_eq_zero, Nat.xor_eq_zero_iff]
  constructor
  · rintro ⟨lengths, bytes⟩
    apply List.ext_getElem lengths
    intro index inLeft inRight
    have same := bytes index (List.mem_range.mpr (lt_max_of_lt_left inLeft))
    simp only [List.getElem?_eq_getElem inLeft, List.getElem?_eq_getElem inRight,
      Option.getD_some] at same
    exact UInt8.xor_eq_zero_iff.mp (UInt8.toNat_inj.mp same)
  · rintro rfl
    simp

/-! What a header value may be. -/

-- A byte that `http` admits in a header value.
def isFieldByte (byte : UInt8) : Bool := (32 ≤ byte && byte != 127) || byte == 9

def isVisibleAscii (byte : UInt8) : Bool := (32 ≤ byte && byte < 127) || byte == 9

/-- `HeaderValue::to_str` gives the text of a value of visible ASCII characters. -/
def ToStrDocumented (crates : Crates) : Prop :=
  ∀ value, crates.toStr value =
    if value.all isVisibleAscii then ByteLines.decode value else none

section Headers

variable {crates : Crates} {headers : List (String × List UInt8)} {name token : String}
  {scheme : Option String} {value : List UInt8}

-- The first value of the configured header.
def Presents (crates : Crates) (name : String) (headers : List (String × List UInt8))
    (value : List UInt8) : Prop :=
  ∃ headerName, crates.headerName name = some headerName ∧ headers.lookup headerName = some value

/-- A header value is accepted if and only if it is the expected text. -/
def Exact (crates : Crates) (name expected : String)
    (validateHeaders : List (String × List UInt8) → Except String Bool) : Prop :=
  ∀ headers value, Presents crates name headers value → value.all isFieldByte = true →
    (validateHeaders headers = .ok true ↔ value = ByteLines.utf8 expected.toList)

/-- Where the expected text can be a header value, it is visible ASCII. -/
def Comparable (expected : String) : Prop :=
  (ByteLines.utf8 expected.toList).all isFieldByte = true →
    (ByteLines.utf8 expected.toList).all isVisibleAscii = true

instance (expected : String) : Decidable (Comparable expected) :=
  inferInstanceAs (Decidable (_ → _))

theorem validateHeaders_iff (documented : ToStrDocumented crates)
    (presents : Presents crates name headers value) :
    HttpInboundAuth.validateHeaders crates headers (.header name token scheme) = .ok true ↔
      value.all isVisibleAscii = true ∧
        value = ByteLines.utf8 (expectedAuthHeaderValue scheme token).toList := by
  obtain ⟨headerName, named, found⟩ := presents
  simp only [HttpInboundAuth.validateHeaders, named, found, documented value]
  by_cases visible : value.all isVisibleAscii = true
  · rw [if_pos visible]
    cases decoded : ByteLines.decode value with
    | none =>
        have undecoded : value ≠ ByteLines.utf8 (expectedAuthHeaderValue scheme token).toList := by
          rintro rfl
          rw [ByteLines.decode_utf8] at decoded
          cases decoded
        simp [undecoded]
    | some actual =>
        have own := ByteLines.utf8_decoded decoded
        simp only [constantTimeEq_iff, ByteLines.toUTF8_toList, own]
        by_cases same : value = ByteLines.utf8 (expectedAuthHeaderValue scheme token).toList
        · simp [← same, visible]
        · simp [same]
  · rw [if_neg visible]
    simp [visible]

theorem header_named {sample component : String}
    (valid : validateHeader crates component sample name token scheme = .ok ()) :
    ∃ headerName, crates.headerName name = some headerName := by
  obtain ⟨_, passed, _⟩ := Effects.except_bind_returned valid
  by_cases blank : (JsonRedaction.trim name.toList).isEmpty = true
  · simp [validateHeaderName, blank] at passed
  · cases named : crates.headerName name with
    | none => simp [validateHeaderName, blank, named] at passed
    | some headerName => exact ⟨headerName, rfl⟩

theorem exact_iff (documented : ToStrDocumented crates) {headerName : String}
    (named : crates.headerName name = some headerName) :
    Exact crates name (expectedAuthHeaderValue scheme token)
        (fun headers => HttpInboundAuth.validateHeaders crates headers (.header name token scheme)) ↔
      Comparable (expectedAuthHeaderValue scheme token) := by
  constructor
  · intro exact_ sendable
    have presents : Presents crates name
        [(headerName, ByteLines.utf8 (expectedAuthHeaderValue scheme token).toList)]
        (ByteLines.utf8 (expectedAuthHeaderValue scheme token).toList) :=
      ⟨headerName, named, by simp⟩
    have accepted := (exact_ _ _ presents sendable).mpr rfl
    exact ((validateHeaders_iff documented presents).mp accepted).1
  · intro comparable headers value presents sendable
    rw [validateHeaders_iff documented presents]
    constructor
    · exact fun accepted => accepted.2
    · rintro rfl
      exact ⟨comparable sendable, rfl⟩

end Headers

/-- Both comparisons tell all byte strings apart, and both receivers accept the expected header value
alone, if and only if that value is not one with characters beyond ASCII. -/
theorem inbound_auth_exact_iff {crates : Crates} (documented : ToStrDocumented crates)
    {name token : String} {scheme : Option String}
    (adapter : HttpInboundAuth.validate crates (.header name token scheme) = .ok ())
    (webhook : Webhook.WebhookAuth.validate crates (.header name token scheme) = .ok ()) :
    ((∀ left right, HttpControl.constantTimeEq left right = true ↔ left = right) ∧
      (∀ left right, Webhook.constantTimeEq left right = true ↔ left = right) ∧
      Exact crates name (HttpControl.expectedAuthHeaderValue scheme token) (fun headers =>
        HttpInboundAuth.validateHeaders crates headers (.header name token scheme)) ∧
      Exact crates name (Webhook.expectedAuthHeaderValue scheme token) (fun headers =>
        Webhook.WebhookAuth.validateHeaders crates headers (.header name token scheme))) ↔
    Comparable (HttpControl.expectedAuthHeaderValue scheme token) := by
  obtain ⟨_, adapterNamed⟩ := header_named adapter
  obtain ⟨_, webhookNamed⟩ := header_named webhook
  constructor
  · exact fun ⟨_, _, exact_, _⟩ => (exact_iff documented adapterNamed).mp exact_
  · intro comparable
    exact ⟨constantTimeEq_iff, constantTimeEq_iff,
      (exact_iff documented adapterNamed).mpr comparable,
      (exact_iff documented webhookNamed).mpr comparable⟩

-- Header names as `http` keeps them, for the names of the example below.
def plainCrates : Crates where
  headerName name := if name = "Authorization" then some "authorization" else none
  toStr value := if value.all isVisibleAscii then ByteLines.decode value else none
  fromSlice _ := .error "EOF while parsing a value at line 1 column 0"

theorem bearer_exact :
    (∀ left right, HttpControl.constantTimeEq left right = true ↔ left = right) ∧
    (∀ left right, Webhook.constantTimeEq left right = true ↔ left = right) ∧
    Exact plainCrates "Authorization"
      (HttpControl.expectedAuthHeaderValue (some "Bearer") "s3cret") (fun headers =>
        HttpInboundAuth.validateHeaders plainCrates headers
          (.header "Authorization" "s3cret" (some "Bearer"))) ∧
    Exact plainCrates "Authorization"
      (Webhook.expectedAuthHeaderValue (some "Bearer") "s3cret") (fun headers =>
        Webhook.WebhookAuth.validateHeaders plainCrates headers
          (.header "Authorization" "s3cret" (some "Bearer"))) :=
  (inbound_auth_exact_iff (fun _ => rfl) (by rfl) (by rfl)).mpr (by decide)

/-- The configured token reads "clé", and the value sent with it is refused. -/
theorem accented_token_refused :
    ¬ ∀ crates name token scheme, ToStrDocumented crates →
      HttpInboundAuth.validate crates (.header name token scheme) = .ok () →
      Exact crates name (HttpControl.expectedAuthHeaderValue scheme token) fun headers =>
        HttpInboundAuth.validateHeaders crates headers (.header name token scheme) := by
  intro always
  have exact_ := always plainCrates "Authorization" "clé" none (fun _ => rfl) (by rfl)
  have comparable := (exact_iff (fun _ => rfl) (by rfl)).mp exact_
  exact absurd comparable (by decide)

end Missive.InboundAuth
