import Mathlib.Data.List.DropRight
import Missive.FileDrop
import Missive.MemberOutputs
import Missive.SuffixSearch

/-! The names of exported artifacts. The agents choose names and file names as they like; what is
written below the output directory is cleaned, and numbered where it was used before. The names are
single components, so `Path::file_stem` and `Path::extension` look at the last dot alone. -/
namespace Missive.ExportNames

open RustText JsonValue Missive.Core Schema Artifacts MemberOutputs SuffixSearch

structure ExportCodec extends ArtifactCodec where
  toVecPretty : Json → Option (List UInt8)

structure ArtifactPayload where
  bytes : List UInt8
  extension : String

def extensionForMime (mimeType : Option String) : Option String :=
  match mimeType.map fun value => lowercase value.toList with
  | some value =>
      if value = "application/json".toList ∨ "+json".toList.isSuffixOf value then some "json"
      else if value = "text/markdown".toList ∨ value = "text/x-markdown".toList then some "md"
      else if "text/".toList.isPrefixOf value then some "txt"
      else if value = "application/octet-stream".toList then some "bin"
      else if value = "image/png".toList then some "png"
      else if value = "image/jpeg".toList then some "jpg"
      else if value = "image/gif".toList then some "gif"
      else none
  | none => none

section Payload

variable (codec : ExportCodec)

def jsonBytes (value : Json) : Except MissiveError (List UInt8) :=
  match codec.toVecPretty value with
  | some bytes => .ok (bytes ++ [10])
  | none => .error (MissiveError.orchestration "encoding artifact JSON for disk export")

def rawBytes (part : Part) : Option (List UInt8) :=
  match part.content with
  | .raw bytes => some bytes
  | _ => none

def partData (part : Part) : Option Json :=
  match part.content with
  | .data value => some value
  | _ => none

def fileReference (part : Part) : Option Json :=
  match part.content with
  | .url url => some (.object [("filename", Json.ofOption .string part.filename),
      ("mediaType", Json.ofOption .string part.mediaType), ("url", .string url)])
  | _ => none

def oneOrArray : List Json → Json
  | [value] => value
  | values => .array values

def artifactPayload (record : ArtifactRecord) : Except MissiveError ArtifactPayload := do
  let artifact ← artifactFromRecord codec.toArtifactCodec record
  let rawParts := artifact.parts.filterMap rawBytes
  let textParts := artifact.parts.filterMap Protocol.partText
  let dataParts := artifact.parts.filterMap partData
  let urlParts := artifact.parts.filterMap fileReference
  if !rawParts.isEmpty then
    .ok ⟨rawParts.flatten, (extensionForMime record.mimeType).getD "bin"⟩
  else if !textParts.isEmpty then
    .ok ⟨("".intercalate textParts).toUTF8.toList, (extensionForMime record.mimeType).getD "txt"⟩
  else if !dataParts.isEmpty then do
    let bytes ← jsonBytes codec (oneOrArray dataParts)
    .ok ⟨bytes, "json"⟩
  else if !urlParts.isEmpty then do
    let bytes ← jsonBytes codec (.object [("artifactId", .string artifact.artifactId),
      ("files", .array urlParts), ("kind", .string "file_reference"),
      ("name", Json.ofOption .string artifact.name)])
    .ok ⟨bytes, "json"⟩
  else do
    let bytes ← jsonBytes codec (record.contentJson.getD (.object []))
    .ok ⟨bytes, "json"⟩

end Payload

/-! Cleaning. -/

def isNameCharacter (c : Char) : Bool := isAsciiAlphanumeric c || c == '.' || c == '-' || c == '_'

def cleanCharacter (c : Char) : Char := if isNameCharacter c then c else '_'

-- The fallback keeps no dots.
def cleanFallback (c : Char) : Char := if isNameCharacter c && c != '.' then c else '_'

-- `trim_matches('.')`
def trimDots (text : Text) : Text := (text.dropWhile (· == '.')).rdropWhile (· == '.')

-- `rsplit(['/', '\\']).next()`
def leafOf (input : Text) : Text := input.rtakeWhile fun c => c != '/' && c != '\\'

def chosenLeaf (input fallback : Text) : Text :=
  if (leafOf input).isEmpty then fallback else leafOf input

def cleaned (value : Text) : Text := trimDots (value.map cleanCharacter)

def cleanedName (input fallback : Text) : Text :=
  if (cleaned (chosenLeaf input fallback)).isEmpty then fallback.map cleanFallback
  else cleaned (chosenLeaf input fallback)

def sanitized (input fallback : String) : String :=
  if (cleanedName input.toList fallback.toList).isEmpty then "artifact"
  else String.ofList (cleanedName input.toList fallback.toList)

def sanitizeFileName (input fallback extension : String) : String :=
  if extension ≠ "" ∧ FileDrop.extension (sanitized input fallback) = none then
    sanitized input fallback ++ "." ++ extension
  else sanitized input fallback

def sanitizePathComponent (value : String) : String :=
  if (cleaned value.toList).isEmpty then "member" else String.ofList (cleaned value.toList)

section Names

variable (codec : ExportCodec)

def firstPartFilename (record : ArtifactRecord) : Option String :=
  match artifactFromRecord codec.toArtifactCodec record with
  | .ok artifact => artifact.parts.findSome? Part.filename
  | .error _ => none

def safeFileName (record : ArtifactRecord) : Except MissiveError String := do
  let payload ← artifactPayload codec record
  let preferred := (record.name.or (firstPartFilename codec record)).getD record.artifactId.text
  .ok (sanitizeFileName preferred record.artifactId.text payload.extension)

-- `Path::file_stem`, which `.` and `..` do not have.
def stemOf (base : String) : String :=
  if base = "" ∨ base = "." ∨ base = ".." then "artifact" else FileDrop.fileStem base

def suffixed (base : String) (suffix : Nat) : String :=
  match FileDrop.extension base with
  | some extension => stemOf base ++ "-" ++ toString suffix ++ "." ++ extension
  | none => stemOf base ++ "-" ++ toString suffix

-- `for suffix in 2_u64..`, tried once more than there are names in use.
def uniqueFileName (base : String) (used : List String) : Option String :=
  if base ∈ used then search used (suffixed base) (used.length + 1) 2 else some base

def memberFileName (member : GroupMemberRecord) (artifact : ArtifactRecord) :
    Except MissiveError String := do
  let base ← safeFileName codec artifact
  .ok (sanitizePathComponent s!"{member.rankName.text}-{member.agentAlias.text}" ++ "-" ++ base)

end Names

/-! The exports. -/

-- Why an export ends early. A search that has not ended is told apart from an error.
inductive Stop where
  | failed (error : MissiveError)
  | searching

structure Export where
  names : List String
  stopped : Option Stop

-- One item after the other is named, and then written.
def exportItems {Item : Type} (base : Item → Except MissiveError String)
    (write : Item → String → Except MissiveError Unit) (used : List String) :
    List Item → Export
  | [] => ⟨[], none⟩
  | item :: rest =>
      match base item with
      | .error error => ⟨[], some (.failed error)⟩
      | .ok desired =>
          match uniqueFileName desired used with
          | none => ⟨[], some .searching⟩
          | some name =>
              match write item name with
              | .error error => ⟨[name], some (.failed error)⟩
              | .ok _ =>
                  let later := exportItems base write (name :: used) rest
                  ⟨name :: later.names, later.stopped⟩

section Exports

variable (codec : ExportCodec)

-- The names of `export_artifacts`; what a write does is up to the file system.
def exportArtifacts (write : ArtifactRecord → String → Except MissiveError Unit)
    (artifacts : List ArtifactRecord) : Export :=
  exportItems (safeFileName codec) write [] artifacts

-- The names of `plan_gather_artifact_exports`, which writes nothing.
def planGatherExports (members : List MemberState) : Export :=
  exportItems (fun planned => memberFileName codec planned.1 planned.2) (fun _ _ => .ok ()) []
    (members.flatMap fun state => state.artifacts.map fun artifact => (state.member, artifact))

end Exports

/-! Names that stay below their directory. -/

structure SafeName (name : String) : Prop where
  filled : name ≠ ""
  characters : ∀ c ∈ name.toList, isNameCharacter c = true
  notHere : name ≠ "."
  notUp : name ≠ ".."

def Allowed (name : String) : Prop := name.toList.all isNameCharacter = true

instance (name : String) : Decidable (Allowed name) :=
  inferInstanceAs (Decidable (name.toList.all isNameCharacter = true))

theorem allowed_append (first last : String) :
    Allowed (first ++ last) ↔ Allowed first ∧ Allowed last := by
  simp [Allowed, List.all_append]

theorem dashed_safe {name : String} (allowed : Allowed name) (dash : '-' ∈ name.toList) :
    SafeName name where
  filled := by
    rintro rfl
    cases dash
  characters := List.all_eq_true.mp allowed
  notHere := by
    rintro rfl
    exact absurd dash (by decide)
  notUp := by
    rintro rfl
    exact absurd dash (by decide)

theorem undotted_safe {name : String} (allowed : Allowed name) (filled : name.toList ≠ [])
    (front : name.toList.head? ≠ some '.') : SafeName name where
  filled := by
    rintro rfl
    exact filled rfl
  characters := List.all_eq_true.mp allowed
  notHere := by
    rintro rfl
    exact front rfl
  notUp := by
    rintro rfl
    exact front rfl

/-! Cleaning. -/

theorem clean_allowed (c : Char) : isNameCharacter (cleanCharacter c) = true := by
  by_cases allowed : isNameCharacter c = true
  · rw [cleanCharacter, if_pos allowed, allowed]
  · rw [cleanCharacter, if_neg allowed]
    rfl

theorem fallback_allowed (c : Char) :
    isNameCharacter (cleanFallback c) = true ∧ cleanFallback c ≠ '.' := by
  by_cases kept : (isNameCharacter c && c != '.') = true
  · rw [cleanFallback, if_pos kept]
    simpa using kept
  · rw [cleanFallback, if_neg kept]
    decide

theorem trimDots_subset {text : Text} {c : Char} (member : c ∈ trimDots text) : c ∈ text :=
  (List.dropWhile_suffix _).subset ((List.rdropWhile_prefix _ _).subset member)

theorem trimDots_front (text : Text) : (trimDots text).head? ≠ some '.' := by
  intro front
  have starts : trimDots text <+: text.dropWhile (· == '.') := List.rdropWhile_prefix _ _
  have plain := List.head?_dropWhile_not (· == '.') text
  obtain ⟨rest, whole⟩ := starts
  cases trimmed : trimDots text with
  | nil => simp [trimmed] at front
  | cons c others =>
      rw [trimmed] at front whole
      rw [← whole] at plain
      obtain rfl : c = '.' := by simpa using front
      simp at plain

theorem cleaned_allowed (value : Text) : (cleaned value).all isNameCharacter = true := by
  rw [List.all_eq_true]
  intro c member
  obtain ⟨written, _, rfl⟩ := List.mem_map.mp (trimDots_subset member)
  exact clean_allowed written

theorem cleanedName_allowed (input fallback : Text) :
    (cleanedName input fallback).all isNameCharacter = true ∧
      (cleanedName input fallback).head? ≠ some '.' := by
  by_cases empty : (cleaned (chosenLeaf input fallback)).isEmpty = true
  · rw [cleanedName, if_pos empty]
    constructor
    · rw [List.all_map, List.all_eq_true]
      exact fun c _ => (fallback_allowed c).1
    · rw [List.head?_map]
      intro front
      obtain ⟨c, _, dot⟩ := Option.map_eq_some_iff.mp front
      exact (fallback_allowed c).2 dot
  · rw [cleanedName, if_neg empty]
    exact ⟨cleaned_allowed _, trimDots_front _⟩

theorem sanitized_allowed (input fallback : String) :
    Allowed (sanitized input fallback) ∧ (sanitized input fallback).toList ≠ [] ∧
      (sanitized input fallback).toList.head? ≠ some '.' := by
  have ⟨allowed, front⟩ := cleanedName_allowed input.toList fallback.toList
  by_cases empty : (cleanedName input.toList fallback.toList).isEmpty = true
  · rw [sanitized, if_pos empty]
    decide
  · rw [sanitized, if_neg empty, Allowed, String.toList_ofList]
    exact ⟨allowed, by simpa using empty, front⟩

theorem sanitizeFileName_safe (input fallback : String) {extension : String}
    (plain : Allowed extension) : SafeName (sanitizeFileName input fallback extension) := by
  have ⟨allowed, filled, front⟩ := sanitized_allowed input fallback
  by_cases bare : extension ≠ "" ∧ FileDrop.extension (sanitized input fallback) = none
  · rw [sanitizeFileName, if_pos bare]
    apply undotted_safe
    · simp only [allowed_append]
      exact ⟨⟨allowed, by decide⟩, plain⟩
    · simp [filled]
    · rw [String.toList_append, String.toList_append, List.append_assoc,
        List.head?_append_of_ne_nil _ filled]
      exact front
  · rw [sanitizeFileName, if_neg bare]
    exact undotted_safe allowed filled front

theorem sanitizePathComponent_allowed (value : String) : Allowed (sanitizePathComponent value) := by
  by_cases empty : (cleaned value.toList).isEmpty = true
  · rw [sanitizePathComponent, if_pos empty]
    decide
  · rw [sanitizePathComponent, if_neg empty, Allowed, String.toList_ofList]
    exact cleaned_allowed _

example : sanitizeFileName "..\\..\\evil.json" "artifact-1" "json" = "evil.json" := by decide

example : sanitizeFileName "../.." "artifact-1" "txt" = "artifact-1.txt" := by decide

/-! The extensions. -/

def mimeExtensions : List String := ["json", "md", "txt", "bin", "png", "jpg", "gif"]

theorem mimeExtensions_allowed : ∀ extension ∈ mimeExtensions, Allowed extension := by
  simp only [mimeExtensions, List.forall_mem_cons, List.not_mem_nil, false_implies, implies_true,
    and_true]
  decide

theorem extensionForMime_known {mimeType : Option String} {extension : String}
    (found : extensionForMime mimeType = some extension) : extension ∈ mimeExtensions := by
  unfold extensionForMime at found
  cases lowered : mimeType.map fun value => lowercase value.toList with
  | none => simp [lowered] at found
  | some value =>
      simp only [lowered] at found
      split_ifs at found
      all_goals
        cases found
        decide

theorem mimeExtension_allowed (mimeType : Option String) {default : String}
    (plain : default ∈ mimeExtensions) : Allowed ((extensionForMime mimeType).getD default) := by
  cases found : extensionForMime mimeType with
  | none => exact mimeExtensions_allowed default plain
  | some extension => exact mimeExtensions_allowed extension (extensionForMime_known found)

theorem jsonPayload_allowed {codec : ExportCodec} {value : Json} {payload : ArtifactPayload}
    (made : (jsonBytes codec value >>= fun bytes =>
      (.ok ⟨bytes, "json"⟩ : Except MissiveError ArtifactPayload)) = .ok payload) :
    Allowed payload.extension := by
  obtain ⟨bytes, _, same⟩ := Effects.except_bind_returned made
  cases same
  exact mimeExtensions_allowed "json" (by decide)

theorem payload_allowed {codec : ExportCodec} {record : ArtifactRecord} {payload : ArtifactPayload}
    (read : artifactPayload codec record = .ok payload) : Allowed payload.extension := by
  obtain ⟨artifact, _, made⟩ := Effects.except_bind_returned read
  dsimp only at made
  split_ifs at made
  · cases made
    exact mimeExtension_allowed record.mimeType (by decide)
  · cases made
    exact mimeExtension_allowed record.mimeType (by decide)
  · exact jsonPayload_allowed made
  · exact jsonPayload_allowed made
  · exact jsonPayload_allowed made

theorem safeFileName_safe {codec : ExportCodec} {record : ArtifactRecord} {name : String}
    (chosen : safeFileName codec record = .ok name) : SafeName name := by
  obtain ⟨payload, read, same⟩ := Effects.except_bind_returned chosen
  cases same
  exact sanitizeFileName_safe _ _ (payload_allowed read)

theorem memberFileName_safe {codec : ExportCodec} {member : GroupMemberRecord}
    {artifact : ArtifactRecord} {name : String}
    (chosen : memberFileName codec member artifact = .ok name) : SafeName name := by
  obtain ⟨base, named, same⟩ := Effects.except_bind_returned chosen
  cases same
  apply dashed_safe
  · simp only [allowed_append]
    exact ⟨⟨sanitizePathComponent_allowed _, by decide⟩,
      List.all_eq_true.mpr (safeFileName_safe named).characters⟩
  · simp

/-! Numbering. -/

theorem splitLastDot_whole {name before after : String}
    (cut : FileDrop.splitLastDot name = some (before, after)) :
    name = before ++ "." ++ after := by
  unfold FileDrop.splitLastDot at cut
  have whole := List.takeWhile_append_dropWhile (p := (· ≠ '.')) (l := name.toList.reverse)
  have stop := List.head?_dropWhile_not (· ≠ '.') name.toList.reverse
  cases rest : name.toList.reverse.dropWhile (· ≠ '.') with
  | nil =>
      rw [rest] at cut
      cases cut
  | cons dot front =>
      rw [rest] at cut whole stop
      obtain rfl : dot = '.' := by simpa using stop
      cases cut
      have text := congrArg List.reverse whole
      rw [List.reverse_reverse] at text
      exact String.toList_inj.mp (text.symm.trans (by simp))

theorem stem_allowed {base : String} (allowed : Allowed base) : Allowed (stemOf base) := by
  unfold stemOf FileDrop.fileStem
  split_ifs with special
  · decide
  · cases cut : FileDrop.splitLastDot base with
    | none => exact allowed
    | some pair =>
        have whole := splitLastDot_whole cut
        rw [whole, allowed_append, allowed_append] at allowed
        dsimp only
        split_ifs
        · rw [whole, allowed_append, allowed_append]
          exact allowed
        · exact allowed.1.1

theorem extension_allowed {base extension : String} (allowed : Allowed base)
    (found : FileDrop.extension base = some extension) : Allowed extension := by
  unfold FileDrop.extension at found
  cases cut : FileDrop.splitLastDot base with
  | none => simp [cut] at found
  | some pair =>
      rw [splitLastDot_whole cut, allowed_append] at allowed
      simp only [cut] at found
      split_ifs at found
      cases found
      exact allowed.2

theorem number_allowed (n : Nat) : Allowed (toString n) := by
  rw [Allowed, Nat.toString_eq_ofList_toDigits, String.toList_ofList, List.all_eq_true]
  intro c member
  have digit := Nat.isDigit_of_mem_toDigits (by decide) (by decide) member
  have inside : isAsciiDigit c = true := by
    simpa [Char.isDigit, isAsciiDigit, UInt32.le_iff_toNat_le] using digit
  simp [isNameCharacter, isAsciiAlphanumeric, inside]

theorem suffixed_safe {base : String} (allowed : Allowed base) (suffix : Nat) :
    SafeName (suffixed base suffix) := by
  unfold suffixed
  cases found : FileDrop.extension base with
  | none =>
      apply dashed_safe
      · simp only [allowed_append]
        exact ⟨⟨stem_allowed allowed, by decide⟩, number_allowed suffix⟩
      · simp
  | some extension =>
      apply dashed_safe
      · simp only [allowed_append]
        exact ⟨⟨⟨⟨stem_allowed allowed, by decide⟩, number_allowed suffix⟩, by decide⟩,
          extension_allowed allowed found⟩
      · simp

theorem number_injective {first last : Nat} (same : toString first = toString last) :
    first = last := by
  rw [Nat.toString_eq_ofList_toDigits, Nat.toString_eq_ofList_toDigits] at same
  have digits := congrArg (fun text => Nat.ofDigitChars 10 text 0) (String.ofList_injective same)
  simpa using digits

theorem suffixed_injective (base : String) : Function.Injective (suffixed base) := by
  intro first last same
  unfold suffixed at same
  cases found : FileDrop.extension base with
  | none =>
      simp only [found] at same
      exact number_injective ((String.append_right_inj _).mp same)
  | some extension =>
      simp only [found] at same
      have ends := (String.append_left_inj _).mp ((String.append_left_inj _).mp same)
      exact number_injective ((String.append_right_inj _).mp ends)

theorem uniqueFileName_used (base : String) {used : List String} (taken : base ∈ used) :
    ∃ suffix, 2 ≤ suffix ∧ suffix ≤ used.length + 2 ∧ suffixed base suffix ∉ used ∧
      uniqueFileName base used = some (suffixed base suffix) := by
  obtain ⟨suffix, after, within, free, found⟩ :=
    search_ends (suffixed_injective base) (Nat.lt_succ_self used.length) 2
  refine ⟨suffix, after, by omega, free, ?_⟩
  rw [uniqueFileName, if_pos taken]
  exact found

theorem uniqueFileName_fresh {base : String} (safe : SafeName base) (used : List String) :
    ∃ name, uniqueFileName base used = some name ∧ name ∉ used ∧ SafeName name := by
  by_cases taken : base ∈ used
  · obtain ⟨suffix, _, _, free, found⟩ := uniqueFileName_used base taken
    exact ⟨_, found, free, suffixed_safe (List.all_eq_true.mpr safe.characters) suffix⟩
  · exact ⟨base, if_neg taken, taken, safe⟩

/-! The exports. -/

structure SafeExport (used : List String) (run : Export) : Prop where
  distinct : run.names.Nodup
  fresh : ∀ name ∈ run.names, name ∉ used
  safe : ∀ name ∈ run.names, SafeName name
  ended : run.stopped ≠ some .searching

theorem exportItems_safe {Item : Type} {base : Item → Except MissiveError String}
    (safe : ∀ item name, base item = .ok name → SafeName name)
    (write : Item → String → Except MissiveError Unit) (used : List String) (items : List Item) :
    SafeExport used (exportItems base write used items) := by
  induction items generalizing used with
  | nil => exact ⟨List.nodup_nil, by simp [exportItems], by simp [exportItems], nofun⟩
  | cons item rest ih =>
      cases based : base item with
      | error error =>
          rw [exportItems, based]
          exact ⟨List.nodup_nil, by simp, by simp, nofun⟩
      | ok desired =>
          obtain ⟨name, chosen, free, named⟩ := uniqueFileName_fresh (safe item desired based) used
          cases wrote : write item name with
          | error error =>
              rw [exportItems, based]
              simp only [chosen, wrote]
              exact ⟨List.nodup_singleton name, by simpa using free, by simpa using named, nofun⟩
          | ok _ =>
              rw [exportItems, based]
              simp only [chosen, wrote]
              have later := ih (name :: used)
              constructor
              · apply List.nodup_cons.mpr
                constructor
                · intro again
                  exact later.fresh name again List.mem_cons_self
                · exact later.distinct
              · intro other member
                rcases List.mem_cons.mp member with rfl | after
                · exact free
                · exact fun taken => later.fresh other after (List.mem_cons_of_mem name taken)
              · intro other member
                rcases List.mem_cons.mp member with rfl | after
                · exact named
                · exact later.safe other after
              · exact later.ended

/-- Whatever the agents sent, the names of an export differ, are single safe components, and are
found after at most one try more than there are names in use. -/
theorem exports_safe (codec : ExportCodec) :
    (∀ (write : ArtifactRecord → String → Except MissiveError Unit)
      (artifacts : List ArtifactRecord), SafeExport [] (exportArtifacts codec write artifacts)) ∧
    (∀ members : List MemberState, SafeExport [] (planGatherExports codec members)) ∧
    ∀ (base : String) (used : List String), base ∈ used →
      ∃ suffix, 2 ≤ suffix ∧ suffix ≤ used.length + 2 ∧ suffixed base suffix ∉ used ∧
        uniqueFileName base used = some (suffixed base suffix) := by
  refine ⟨?_, ?_, fun base used taken => uniqueFileName_used base taken⟩
  · intro write artifacts
    exact exportItems_safe (fun _ _ => safeFileName_safe) write [] artifacts
  · intro members
    exact exportItems_safe (fun _ _ => memberFileName_safe) _ [] _

-- Below an absolute directory each name is one component more.
theorem exported_below {directory : Text} (absolute : FilePaths.isAbsolute directory = true)
    {name : String} (safe : SafeName name) :
    FilePaths.components (FilePaths.join directory name.toList) =
      FilePaths.components directory ++ [.normal name.toList] := by
  have solid : '/' ∉ name.toList := by
    intro slash
    exact absurd (safe.characters '/' slash) (by decide)
  have relative : FilePaths.isAbsolute name.toList = false := by
    cases whole : name.toList with
    | nil => rfl
    | cons c rest =>
        have apart : c ≠ '/' := by
          rintro rfl
          exact solid (whole ▸ List.mem_cons_self)
        simpa [FilePaths.isAbsolute] using apart
  rw [FilePaths.components_join absolute relative, FilePaths.parts_name]
  · exact fun empty => safe.filled (String.toList_eq_nil_iff.mp empty)
  · exact solid
  · exact fun here => safe.notHere (String.toList_inj.mp here)
  · exact fun up => safe.notUp (String.toList_inj.mp up)

end Missive.ExportNames
