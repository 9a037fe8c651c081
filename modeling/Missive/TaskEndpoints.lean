import Missive.InterfaceNegotiation
import Missive.PercentEncoding

/-! The HTTP+JSON endpoints of a task. A URL is what the url crate reads of its text; its parser is a
parameter, and `UrlParsing` is what its documentation says of the paths that are put together here. -/
namespace Missive.TaskEndpoints

open RustText JsonRedaction Missive.Core JobWorkers ByteLines PercentEncoding

-- The origin goes up to the path; a URL without a host is refused before it is put together.
structure Url where
  origin : Text
  host : Option Text
  segments : List Text
  query : Option Text
  fragment : Option Text
  closed : host ≠ none → origin.getLast? ≠ some '/'
  parts : ∀ segment ∈ segments, '/' ∉ segment

def Url.text (url : Url) : Text :=
  url.origin ++ path url.segments ++ ((url.query.map fun query => '?' :: query).getD []) ++
    (url.fragment.map fun fragment => '#' :: fragment).getD []

def Url.setQuery (url : Url) (query : Option Text) : Url := { url with query := query }

def Url.setFragment (url : Url) (fragment : Option Text) : Url := { url with fragment := fragment }

-- What path parsing keeps as it is.
def isPathCharacter (c : Char) : Bool := isSerialized c || c == ':'

structure UrlParsing (parse : Text → Option Url) : Prop where
  resolves : ∀ {text url}, parse text = some url → ∀ {segments : List Text}, segments ≠ [] →
    (∀ segment ∈ segments, ∀ c ∈ segment, isPathCharacter c = true) →
    ∃ resolved, parse (url.origin ++ path (trimmed url.segments ++ segments)) = some resolved ∧
      resolved.origin = url.origin ∧
      resolved.segments = resolve (trimmed url.segments) segments

section Endpoints

variable (parse : Text → Option Url)

def validateAbsoluteUrl (label : String) (value : String) : Except MissiveError Url :=
  match parse value.toList with
  | none => .error ((MissiveError.validation s!"{label} must be an absolute URL").withHelp
      "Use an absolute http(s) URL such as https://agent.example/a2a.")
  | some parsed =>
      if parsed.host.isNone then
        .error ((MissiveError.validation s!"{label} must include a host").withHelp
          "Use an absolute http(s) URL such as https://agent.example/a2a.")
      else .ok parsed

def restEndpointUrl (baseUrl : String) (suffix : Text) : Except MissiveError Url := do
  let parsed ← validateAbsoluteUrl parse "HTTP+JSON interface URL" baseUrl
  let bare := (parsed.setQuery none).setFragment none
  let endpoint := bare.text.rdropWhile (fun c => c == '/') ++
    '/' :: suffix.dropWhile fun c => c == '/'
  match parse endpoint with
  | some url => .ok url
  | none =>
      .error (MissiveError.validation (s!"could not resolve A2A REST endpoint " ++
        s!"{debug (String.ofList suffix)} against interface URL {debug baseUrl}"))

def encodePathSegment (value : String) : Text := byteSerialize (utf8 value.toList)

def tasksRestPath : Text := "tasks".toList

def pushConfigsRestPath : Text := "pushNotificationConfigs".toList

def getTaskUrl (interface : NegotiatedInterface) (taskId : String) : Except MissiveError Url :=
  restEndpointUrl parse interface.url (tasksRestPath ++ '/' :: encodePathSegment taskId)

def cancelTaskUrl (interface : NegotiatedInterface) (taskId : String) : Except MissiveError Url :=
  restEndpointUrl parse interface.url
    (tasksRestPath ++ '/' :: (encodePathSegment taskId ++ ":cancel".toList))

def subscribeTaskUrl (interface : NegotiatedInterface) (taskId : String) :
    Except MissiveError Url :=
  restEndpointUrl parse interface.url
    (tasksRestPath ++ '/' :: (encodePathSegment taskId ++ ":subscribe".toList))

def validatePushTaskId (taskId : String) : Except MissiveError Unit :=
  if (trim taskId.toList).isEmpty then
    .error (MissiveError.validation
      "A2A task push notification config taskId cannot be empty")
  else .ok ()

def pushConfigCollectionUrl (interface : NegotiatedInterface) (taskId : String) :
    Except MissiveError Url :=
  restEndpointUrl parse interface.url
    (tasksRestPath ++ '/' :: (encodePathSegment taskId ++ '/' :: pushConfigsRestPath))

def pushConfigItemUrl (interface : NegotiatedInterface) (taskId configId : String) :
    Except MissiveError Url :=
  if (trim configId.toList).isEmpty then
    .error (MissiveError.validation "A2A task push notification config id cannot be empty")
  else
    restEndpointUrl parse interface.url (tasksRestPath ++ '/' :: (encodePathSegment taskId ++
      '/' :: (pushConfigsRestPath ++ '/' :: encodePathSegment configId)))

-- What a request asks the HTTP+JSON binding of a task for.
inductive TaskRequest where
  | get (task : TaskId)
  | cancel (task : TaskId)
  | subscribe (task : TaskId)
  | pushConfigs (task : TaskId)
  | pushConfig (task : TaskId) (config : PushConfigId)
  deriving DecidableEq

def TaskRequest.endpoint (interface : NegotiatedInterface) :
    TaskRequest → Except MissiveError Url
  | .get task => getTaskUrl parse interface task.text
  | .cancel task => cancelTaskUrl parse interface task.text
  | .subscribe task => subscribeTaskUrl parse interface task.text
  | .pushConfigs task => do
      validatePushTaskId task.text
      pushConfigCollectionUrl parse interface task.text
  | .pushConfig task config => do
      validatePushTaskId task.text
      pushConfigItemUrl parse interface task.text config.text

end Endpoints

/-! What an endpoint has to say. -/

-- A segment of a route: fixed, or an identifier with the verb behind it.
inductive Piece where
  | fixed (text : Text)
  | named (id : String) (verb : Text)

def Piece.Reads : Piece → Text → Prop
  | .fixed text, segment => segment = text
  | .named id verb, segment =>
      ∃ encoded, segment = encoded ++ verb ∧ percentDecode encoded = utf8 id.toList

def TaskRequest.pieces : TaskRequest → List Piece
  | .get task => [.fixed "tasks".toList, .named task.text []]
  | .cancel task => [.fixed "tasks".toList, .named task.text ":cancel".toList]
  | .subscribe task => [.fixed "tasks".toList, .named task.text ":subscribe".toList]
  | .pushConfigs task => [.fixed "tasks".toList, .named task.text [],
      .fixed "pushNotificationConfigs".toList]
  | .pushConfig task config => [.fixed "tasks".toList, .named task.text [],
      .fixed "pushNotificationConfigs".toList, .named config.text []]

structure Leads (base : Url) (request : TaskRequest) (endpoint : Url) : Prop where
  origin : endpoint.origin = base.origin
  route : ∃ segments, endpoint.segments = trimmed base.segments ++ segments ∧
    List.Forall₂ Piece.Reads request.pieces segments

structure Identified (parse : Text → Option Url) (interface : NegotiatedInterface) (base : Url)
    (left right : TaskRequest) : Prop where
  reached : ∃ leftUrl rightUrl, left.endpoint parse interface = .ok leftUrl ∧
    right.endpoint parse interface = .ok rightUrl ∧ Leads base left leftUrl ∧
    Leads base right rightUrl
  apart : left.endpoint parse interface = right.endpoint parse interface → left = right

def isDotName (id : String) : Bool := id == "." || id == ".."

-- An identifier with a verb behind it is never a dot segment.
def TaskRequest.dotted : TaskRequest → Bool
  | .get task | .pushConfigs task => isDotName task.text
  | .cancel _ | .subscribe _ => false
  | .pushConfig task config => isDotName task.text || isDotName config.text

/-! Identifiers as segments. -/

section Segments

variable {kind : IdKind}

theorem opaque_solid {value : String} (valid : opaqueReason value = none) :
    value.toList ≠ [] ∧ ∀ c ∈ value.toList, isWhitespace c = false := by
  unfold opaqueReason at valid
  split_ifs at valid with empty _ blank
  refine ⟨by simpa using empty, ?_⟩
  simpa using blank

theorem percentDecode_encoded {value : String} (valid : opaqueReason value = none)
    (rest : Text) : percentDecode (encodePathSegment value ++ rest) =
      utf8 value.toList ++ percentDecode rest := by
  apply percentDecode_serialize
  have free : ' ' ∉ value.toList := by
    intro member
    exact absurd ((opaque_solid valid).2 ' ' member) (by decide)
  exact ascii_free (by decide) free

theorem percentDecode_whole {value : String} (valid : opaqueReason value = none) :
    percentDecode (encodePathSegment value) = utf8 value.toList := by
  have decoded := percentDecode_encoded valid []
  rwa [List.append_nil, percentDecode, List.append_nil] at decoded

theorem encoded_injective {left right : String} (validLeft : opaqueReason left = none)
    (validRight : opaqueReason right = none)
    (same : encodePathSegment left = encodePathSegment right) : left = right := by
  have decoded := percentDecode_whole validLeft
  rw [same, percentDecode_whole validRight] at decoded
  exact (String.toList_inj.mp (utf8_injective decoded)).symm

theorem singleDot_encoded {value : String} (valid : opaqueReason value = none) :
    singleDot (encodePathSegment value) = (value == ".") := by
  have dot : utf8 ".".toList = [0x2E] := by decide
  rw [Bool.eq_iff_iff, singleDot, percentDecode_whole valid, beq_iff_eq, beq_iff_eq, ← dot]
  exact ⟨fun same => String.toList_inj.mp (utf8_injective same), fun same => by rw [same]⟩

theorem doubleDot_encoded {value : String} (valid : opaqueReason value = none) :
    doubleDot (encodePathSegment value) = (value == "..") := by
  have dots : utf8 "..".toList = [0x2E, 0x2E] := by decide
  rw [Bool.eq_iff_iff, doubleDot, percentDecode_whole valid, beq_iff_eq, beq_iff_eq, ← dots]
  exact ⟨fun same => String.toList_inj.mp (utf8_injective same), fun same => by rw [same]⟩

theorem dotted_encoded {value : String} (valid : opaqueReason value = none) :
    isDotName value = true ↔ singleDot (encodePathSegment value) = true ∨
      doubleDot (encodePathSegment value) = true := by
  rw [singleDot_encoded valid, doubleDot_encoded valid, isDotName, Bool.or_eq_true]

-- The colon of a verb stays in what a segment decodes to.
theorem verb_plain {value : String} (valid : opaqueReason value = none) (verb : Text) :
    singleDot (encodePathSegment value ++ ':' :: verb) = false ∧
      doubleDot (encodePathSegment value ++ ':' :: verb) = false := by
  have colon : (0x3A : UInt8) ∈ percentDecode (encodePathSegment value ++ ':' :: verb) := by
    rw [percentDecode_encoded valid, percentDecode_cons (by decide)]
    exact List.mem_append_right _ (List.mem_append_left _ (by decide))
  constructor
  · rw [singleDot, beq_eq_false_iff_ne]
    intro same
    rw [same] at colon
    exact absurd colon (by decide)
  · rw [doubleDot, beq_eq_false_iff_ne]
    intro same
    rw [same] at colon
    exact absurd colon (by decide)

theorem encoded_characters (value : String) :
    ∀ c ∈ encodePathSegment value, isPathCharacter c = true := by
  intro c member
  simp [isPathCharacter, serialized _ c member]

theorem encoded_uncut (value : String) : ':' ∉ encodePathSegment value := by
  intro member
  exact absurd (serialized _ ':' member) (by decide)

end Segments

/-! The segments of a request. -/

def TaskRequest.segments : TaskRequest → List Text
  | .get task => [tasksRestPath, encodePathSegment task.text]
  | .cancel task => [tasksRestPath, encodePathSegment task.text ++ ":cancel".toList]
  | .subscribe task => [tasksRestPath, encodePathSegment task.text ++ ":subscribe".toList]
  | .pushConfigs task => [tasksRestPath, encodePathSegment task.text, pushConfigsRestPath]
  | .pushConfig task config => [tasksRestPath, encodePathSegment task.text, pushConfigsRestPath,
      encodePathSegment config.text]

theorem segments_read (request : TaskRequest) :
    List.Forall₂ Piece.Reads request.pieces request.segments := by
  have named {kind : IdKind} (id : Id kind) (valid : opaqueReason id.text = none) (verb : Text) :
      Piece.Reads (.named id.text verb) (encodePathSegment id.text ++ verb) :=
    ⟨_, rfl, percentDecode_whole valid⟩
  have whole {kind : IdKind} (id : Id kind) (valid : opaqueReason id.text = none) :
      Piece.Reads (.named id.text []) (encodePathSegment id.text) := by
    simpa using named id valid []
  cases request with
  | get task => exact .cons rfl (.cons (whole task task.valid) .nil)
  | cancel task => exact .cons rfl (.cons (named task task.valid _) .nil)
  | subscribe task => exact .cons rfl (.cons (named task task.valid _) .nil)
  | pushConfigs task => exact .cons rfl (.cons (whole task task.valid) (.cons rfl .nil))
  | pushConfig task config =>
      exact .cons rfl (.cons (whole task task.valid) (.cons rfl
        (.cons (whole config config.valid) .nil)))

theorem encoded_id {kind : IdKind} {left right : Id kind}
    (validLeft : opaqueReason left.text = none) (validRight : opaqueReason right.text = none)
    (same : encodePathSegment left.text = encodePathSegment right.text) : left = right :=
  Id.ext_text (encoded_injective validLeft validRight same)

theorem verb_apart (first second : String) (verb : Text) :
    encodePathSegment first ≠ encodePathSegment second ++ ':' :: verb := by
  intro equal
  apply encoded_uncut first
  rw [equal]
  exact List.mem_append_right _ List.mem_cons_self

theorem verbs_apart (first second : Text) : first ++ ":cancel".toList ≠
    second ++ ":subscribe".toList := by
  intro equal
  have last := congrArg List.getLast? equal
  rw [List.getLast?_append_of_ne_nil _ (by decide), List.getLast?_append_of_ne_nil _ (by decide)]
    at last
  exact absurd last (by decide)

theorem segments_injective {left right : TaskRequest} (same : left.segments = right.segments) :
    left = right := by
  cases left <;> cases right <;>
    simp only [TaskRequest.segments, List.cons.injEq, and_true, true_and, reduceCtorEq, and_false]
      at same
  case get.get task other => rw [encoded_id task.valid other.valid same]
  case cancel.cancel task other =>
    rw [encoded_id task.valid other.valid (List.append_cancel_right same)]
  case subscribe.subscribe task other =>
    rw [encoded_id task.valid other.valid (List.append_cancel_right same)]
  case pushConfigs.pushConfigs task other => rw [encoded_id task.valid other.valid same]
  case pushConfig.pushConfig task config other config' =>
    rw [encoded_id task.valid other.valid same.1, encoded_id config.valid config'.valid same.2]
  case get.cancel | get.subscribe => exact absurd same (verb_apart _ _ _)
  case cancel.get | subscribe.get => exact absurd same.symm (verb_apart _ _ _)
  case cancel.subscribe => exact absurd same (verbs_apart _ _)
  case subscribe.cancel => exact absurd same.symm (verbs_apart _ _)

/-! The URL that the parts are put together to. -/

section Resolved

variable {parse : Text → Option Url} {interface : NegotiatedInterface} {base : Url}

theorem restEndpointUrl_resolved (law : UrlParsing parse)
    (parsed : parse interface.url.toList = some base) (hosted : base.host ≠ none)
    {rest : Text} {segments : List Text} (filled : segments ≠ [])
    (whole : '/' :: (tasksRestPath ++ rest) = path segments)
    (plain : ∀ segment ∈ segments, ∀ c ∈ segment, isPathCharacter c = true) :
    ∃ resolved, restEndpointUrl parse interface.url (tasksRestPath ++ rest) = .ok resolved ∧
      resolved.origin = base.origin ∧
      resolved.segments = resolve (trimmed base.segments) segments := by
  obtain ⟨resolved, found, origin, route⟩ := law.resolves parsed filled plain
  have bare : ((base.setQuery none).setFragment none).text = base.origin ++ path base.segments := by
    simp [Url.text, Url.setQuery, Url.setFragment]
  have kept : (tasksRestPath ++ rest).dropWhile (fun c => c == '/') = tasksRestPath ++ rest := rfl
  refine ⟨resolved, ?_, origin, route⟩
  have solid : base.host.isNone = false := by
    cases host : base.host with
    | none => exact absurd host hosted
    | some => rfl
  have validated : validateAbsoluteUrl parse "HTTP+JSON interface URL" interface.url = .ok base := by
    simp [validateAbsoluteUrl, parsed, solid]
  rw [restEndpointUrl, validated]
  simp only [bind, Except.bind, bare, trim_path (base.closed hosted) base.parts, kept, whole,
    List.append_assoc, ← path_append, found]

theorem fixed_characters : (∀ c ∈ tasksRestPath, isPathCharacter c = true) ∧
    (∀ c ∈ pushConfigsRestPath, isPathCharacter c = true) ∧
    (∀ c ∈ ":cancel".toList, isPathCharacter c = true) ∧
    ∀ c ∈ ":subscribe".toList, isPathCharacter c = true :=
  ⟨List.all_eq_true.mp (by decide), List.all_eq_true.mp (by decide),
    List.all_eq_true.mp (by decide), List.all_eq_true.mp (by decide)⟩

theorem segments_characters (request : TaskRequest) :
    ∀ segment ∈ request.segments, ∀ c ∈ segment, isPathCharacter c = true := by
  obtain ⟨tasks, configs, cancel, subscribe⟩ := fixed_characters
  have verbs (id : String) {verb : Text} (plain : ∀ c ∈ verb, isPathCharacter c = true) :
      ∀ c ∈ encodePathSegment id ++ verb, isPathCharacter c = true := by
    rw [List.forall_mem_append]
    exact ⟨encoded_characters id, plain⟩
  cases request <;>
    simp only [TaskRequest.segments, List.forall_mem_cons, List.not_mem_nil, false_implies,
      implies_true, and_true]
  case get task => exact ⟨tasks, encoded_characters _⟩
  case cancel task => exact ⟨tasks, verbs _ cancel⟩
  case subscribe task => exact ⟨tasks, verbs _ subscribe⟩
  case pushConfigs task => exact ⟨tasks, encoded_characters _, configs⟩
  case pushConfig task config => exact ⟨tasks, encoded_characters _, configs, encoded_characters _⟩

theorem id_visible {value : String} (valid : opaqueReason value = none) :
    ¬(trim value.toList).isEmpty = true := by
  obtain ⟨filled, visible⟩ := opaque_solid valid
  rw [trim_solid visible]
  simpa using filled

theorem endpoint_resolved (law : UrlParsing parse)
    (parsed : parse interface.url.toList = some base) (hosted : base.host ≠ none)
    (request : TaskRequest) :
    ∃ resolved, request.endpoint parse interface = .ok resolved ∧
      resolved.origin = base.origin ∧
      resolved.segments = resolve (trimmed base.segments) request.segments := by
  have plain := segments_characters request
  cases request with
  | get task =>
      exact restEndpointUrl_resolved law parsed hosted (List.cons_ne_nil _ _) (by simp [path, TaskRequest.segments]) plain
  | cancel task =>
      exact restEndpointUrl_resolved law parsed hosted (List.cons_ne_nil _ _) (by simp [path, TaskRequest.segments]) plain
  | subscribe task =>
      exact restEndpointUrl_resolved law parsed hosted (List.cons_ne_nil _ _) (by simp [path, TaskRequest.segments]) plain
  | pushConfigs task =>
      have filled : validatePushTaskId task.text = .ok () := if_neg (id_visible task.valid)
      rw [TaskRequest.endpoint, filled]
      exact restEndpointUrl_resolved law parsed hosted (List.cons_ne_nil _ _) (by simp [path, TaskRequest.segments]) plain
  | pushConfig task config =>
      have filled : validatePushTaskId task.text = .ok () := if_neg (id_visible task.valid)
      have named : pushConfigItemUrl parse interface task.text config.text = _ :=
        if_neg (id_visible config.valid)
      rw [TaskRequest.endpoint, filled]
      change ∃ resolved, pushConfigItemUrl parse interface task.text config.text = _ ∧ _
      rw [named]
      exact restEndpointUrl_resolved law parsed hosted (List.cons_ne_nil _ _) (by simp [path, TaskRequest.segments]) plain

theorem segments_plain {request : TaskRequest} (plain : request.dotted = false) :
    ∀ segment ∈ request.segments, singleDot segment = false ∧ doubleDot segment = false := by
  have fixed : (singleDot tasksRestPath = false ∧ doubleDot tasksRestPath = false) ∧
      singleDot pushConfigsRestPath = false ∧ doubleDot pushConfigsRestPath = false := by decide
  have named {value : String} (valid : opaqueReason value = none)
      (other : isDotName value = false) :
      singleDot (encodePathSegment value) = false ∧
        doubleDot (encodePathSegment value) = false := by
    simpa [isDotName, ← singleDot_encoded valid, ← doubleDot_encoded valid] using other
  cases request <;>
    simp only [TaskRequest.segments, List.forall_mem_cons, List.not_mem_nil, false_implies,
      implies_true, and_true]
  case get task => exact ⟨fixed.1, named task.valid plain⟩
  case cancel task => exact ⟨fixed.1, verb_plain task.valid _⟩
  case subscribe task => exact ⟨fixed.1, verb_plain task.valid _⟩
  case pushConfigs task => exact ⟨fixed.1, named task.valid plain, fixed.2⟩
  case pushConfig task config =>
    rw [TaskRequest.dotted, Bool.or_eq_false_iff] at plain
    exact ⟨fixed.1, named task.valid plain.1, fixed.2, named config.valid plain.2⟩

-- A segment that is lost, or comes out empty, cannot be read as the identifier.
theorem last_lost {stack first earlier : List Text} {segment last : Text} {id : String}
    (valid : opaqueReason id = none) (filled : first ≠ []) (count : earlier.length = first.length)
    (dotted : singleDot segment = true ∨ doubleDot segment = true)
    (reads : Piece.Reads (.named id []) last) :
    resolve (stack ++ first) [segment] ≠ stack ++ (earlier ++ [last]) := by
  intro same
  have some := List.length_pos_iff.mpr filled
  rw [resolve, if_pos List.isEmpty_nil, if_pos List.isEmpty_nil] at same
  by_cases single : singleDot segment = true
  · rw [if_pos single] at same
    have ends := congrArg List.getLast? same
    rw [← List.append_assoc, List.getLast?_concat, List.getLast?_concat] at ends
    obtain ⟨encoded, written, decoded⟩ := reads
    rw [← Option.some.inj ends, List.append_nil] at written
    rw [← written] at decoded
    exact (opaque_solid valid).1 (utf8_injective decoded.symm)
  · have double : doubleDot segment = true := dotted.resolve_left single
    rw [if_neg single, if_pos double] at same
    have lengths := congrArg List.length same
    simp only [List.length_append, List.length_dropLast, List.length_cons, List.length_nil]
      at lengths
    omega

theorem tasks_plain : ∀ segment ∈ [tasksRestPath],
    singleDot segment = false ∧ doubleDot segment = false := by decide

theorem first_lost {stack rest segments : List Text} {id : String} (valid : opaqueReason id = none)
    (dotted : isDotName id = true) (filled : rest ≠ [])
    (count : segments.length = rest.length + 2) :
    resolve stack (tasksRestPath :: encodePathSegment id :: rest) ≠ stack ++ segments := by
  intro same
  have lost := resolve_dotted filled ((dotted_encoded valid).mp dotted) (stack ++ [tasksRestPath])
  have started : resolve stack (tasksRestPath :: encodePathSegment id :: rest) =
      resolve (stack ++ [tasksRestPath]) (encodePathSegment id :: rest) :=
    resolve_append tasks_plain _ _
  rw [← started, same] at lost
  simp only [List.length_append, List.length_cons, List.length_nil] at lost
  omega

theorem dotted_lost {request : TaskRequest} (dotted : request.dotted = true) (stack : List Text)
    {segments : List Text} (reads : List.Forall₂ Piece.Reads request.pieces segments) :
    resolve stack request.segments ≠ stack ++ segments := by
  cases request with
  | cancel | subscribe => contradiction
  | get task =>
      obtain _ | ⟨_, _ | ⟨last, ⟨⟩⟩⟩ := reads
      have started : resolve stack [tasksRestPath, encodePathSegment task.text] =
          resolve (stack ++ [tasksRestPath]) [encodePathSegment task.text] :=
        resolve_append tasks_plain _ _
      rw [TaskRequest.segments, started]
      exact @last_lost _ _ [_] _ _ _ task.valid (List.cons_ne_nil _ _) rfl
        ((dotted_encoded task.valid).mp dotted) last
  | pushConfigs task =>
      exact first_lost task.valid dotted (List.cons_ne_nil _ _) reads.length_eq.symm
  | pushConfig task config =>
      by_cases first : isDotName task.text = true
      · exact first_lost task.valid first (List.cons_ne_nil _ _) reads.length_eq.symm
      · have second : isDotName config.text = true :=
          ((Bool.or_eq_true _ _).mp dotted).resolve_left first
        obtain _ | ⟨_, _ | ⟨_, _ | ⟨_, _ | ⟨last, ⟨⟩⟩⟩⟩⟩ := reads
        have plain : ∀ segment ∈ (TaskRequest.pushConfigs task).segments,
            singleDot segment = false ∧ doubleDot segment = false :=
          segments_plain (eq_false_of_ne_true first)
        have started : resolve stack (TaskRequest.pushConfig task config).segments =
            resolve (stack ++ (TaskRequest.pushConfigs task).segments)
              [encodePathSegment config.text] :=
          resolve_append plain _ _
        rw [started]
        exact @last_lost _ _ [_, _, _] _ _ _ config.valid (List.cons_ne_nil _ _) rfl
          ((dotted_encoded config.valid).mp second) last

/-- The endpoints of two requests lead to what they name, and apart, exactly when no identifier
that is a segment by itself is a dot or two. -/
theorem endpoints_identify_iff (law : UrlParsing parse)
    (parsed : parse interface.url.toList = some base) (hosted : base.host ≠ none)
    (left right : TaskRequest) :
    Identified parse interface base left right ↔ left.dotted = false ∧ right.dotted = false := by
  obtain ⟨leftUrl, leftFound, leftOrigin, leftRoute⟩ := endpoint_resolved law parsed hosted left
  obtain ⟨rightUrl, rightFound, rightOrigin, rightRoute⟩ :=
    endpoint_resolved law parsed hosted right
  constructor
  · intro identified
    obtain ⟨leftUrl', rightUrl', leftSame, rightSame, leftLeads, rightLeads⟩ := identified.reached
    cases leftFound.symm.trans leftSame
    cases rightFound.symm.trans rightSame
    constructor
    · apply eq_false_of_ne_true
      intro dotted
      obtain ⟨segments, route, reads⟩ := leftLeads.route
      exact dotted_lost dotted _ reads (leftRoute.symm.trans route)
    · apply eq_false_of_ne_true
      intro dotted
      obtain ⟨segments, route, reads⟩ := rightLeads.route
      exact dotted_lost dotted _ reads (rightRoute.symm.trans route)
  · intro plain
    rw [resolve_plain (segments_plain plain.1)] at leftRoute
    rw [resolve_plain (segments_plain plain.2)] at rightRoute
    constructor
    · exact ⟨leftUrl, rightUrl, leftFound, rightFound,
        ⟨leftOrigin, _, leftRoute, segments_read left⟩,
        ⟨rightOrigin, _, rightRoute, segments_read right⟩⟩
    · intro same
      rw [leftFound, rightFound] at same
      cases same
      exact segments_injective (List.append_cancel_left (leftRoute.symm.trans rightRoute))

end Resolved

/-! One host, whose URLs are an origin and a path. -/

section Agent

def agentOrigin : Text := "https://agent.example".toList

def agentUrl (segments : List Text) : Option Url :=
  if parts : ∀ segment ∈ segments, '/' ∉ segment then
    some ⟨agentOrigin, some "agent.example".toList, segments, none, none, fun _ => by decide, parts⟩
  else none

def parseAgent (text : Text) : Option Url :=
  if agentOrigin.isPrefixOf text then
    agentUrl (resolve [] ((text.drop (agentOrigin.length + 1)).splitOn '/'))
  else none

theorem parseAgent_some {text : Text} {url : Url} (parsed : parseAgent text = some url) :
    url.origin = agentOrigin ∧
      ∀ segment ∈ url.segments, singleDot segment = false ∧ doubleDot segment = false := by
  rw [parseAgent] at parsed
  split_ifs at parsed
  rw [agentUrl] at parsed
  split_ifs at parsed
  cases parsed
  exact ⟨rfl, resolve_all ⟨by decide, by decide⟩ (fun _ _ single double => ⟨single, double⟩) nofun⟩

theorem agent_parsing : UrlParsing parseAgent where
  resolves := by
    intro text url parsed segments filled plain
    obtain ⟨origin, resolved⟩ := parseAgent_some parsed
    have cut : ∀ segment ∈ trimmed url.segments, segment ∈ url.segments := fun segment member =>
      (List.rdropWhile_prefix List.isEmpty _).subset member
    have parts : ∀ segment ∈ trimmed url.segments ++ segments, '/' ∉ segment := by
      rw [List.forall_mem_append]
      refine ⟨fun segment member => url.parts segment (cut segment member), ?_⟩
      intro segment member slash
      exact absurd (plain segment member '/' slash) (by decide)
    have many : trimmed url.segments ++ segments ≠ [] := by simp [filled]
    obtain ⟨rest, whole, split⟩ := path_split many parts
    have stack : resolve [] (trimmed url.segments ++ segments) =
        resolve (trimmed url.segments) segments :=
      resolve_append (fun segment member => resolved segment (cut segment member)) segments []
    have kept : ∀ segment ∈ resolve (trimmed url.segments) segments, '/' ∉ segment := by
      rw [List.forall_mem_append] at parts
      exact resolve_all nofun (fun segment member _ _ => parts.2 segment member) parts.1
    have led : agentOrigin.isPrefixOf (agentOrigin ++ '/' :: rest) = true := by simp
    have dropped : (agentOrigin ++ '/' :: rest).drop (agentOrigin.length + 1) = rest := by
      rw [List.drop_append]
      simp
    let result : Url :=
      ⟨agentOrigin, some "agent.example".toList, _, none, none, fun _ => by decide, kept⟩
    refine ⟨result, ?_, origin.symm, rfl⟩
    rw [origin, whole, parseAgent, if_pos led, dropped, split, stack, agentUrl, dif_pos kept]

def agentInterface : NegotiatedInterface :=
  ⟨"http+json", "HTTP+JSON", "https://agent.example/a2a/", none, "1.0", .agentCard⟩

def agentBase : Url :=
  ⟨agentOrigin, some "agent.example".toList, ["a2a".toList, []], none, none, fun _ => by decide,
    by decide⟩

theorem agent_parsed : parseAgent agentInterface.url.toList = some agentBase := by
  have led : agentOrigin.isPrefixOf agentInterface.url.toList = true := by decide
  have segments : resolve [] ((agentInterface.url.toList.drop (agentOrigin.length + 1)).splitOn '/') =
      agentBase.segments := by decide
  rw [parseAgent, if_pos led, segments, agentUrl, dif_pos agentBase.parts]
  rfl

def slashedTask : TaskId := ⟨"jobs/7%2e+", by decide⟩

def unicodeConfig : PushConfigId := ⟨"..Ä", by decide⟩

theorem slashed_identified : Identified parseAgent agentInterface agentBase (.get slashedTask)
    (.pushConfig slashedTask unicodeConfig) :=
  (endpoints_identify_iff agent_parsing agent_parsed nofun (.get slashedTask)
    (.pushConfig slashedTask unicodeConfig)).mpr ⟨by decide, by decide⟩

def dotTask : TaskId := ⟨".", by decide⟩

def dotConfig : PushConfigId := ⟨".", by decide⟩

def configsTask : TaskId := ⟨"pushNotificationConfigs", by decide⟩

def dotsConfig : PushConfigId := ⟨"..", by decide⟩

-- Both are sent to `https://agent.example/a2a/tasks/pushNotificationConfigs/`.
theorem dots_collide : UrlParsing parseAgent ∧
    parseAgent agentInterface.url.toList = some agentBase ∧ agentBase.host ≠ none ∧
    ¬Identified parseAgent agentInterface agentBase (.pushConfig dotTask dotConfig)
      (.pushConfig configsTask dotsConfig) := by
  refine ⟨agent_parsing, agent_parsed, nofun, ?_⟩
  intro identified
  have same : (TaskRequest.pushConfig dotTask dotConfig).endpoint parseAgent agentInterface =
      (TaskRequest.pushConfig configsTask dotsConfig).endpoint parseAgent agentInterface := by
    rfl
  exact absurd (identified.apart same) (by decide)

end Agent

end Missive.TaskEndpoints
