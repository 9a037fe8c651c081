import Missive.RustText

/-! Paths of the file system, as `std::path` reads them on Unix. Two paths are equal when they have
the same components; repeated separators and `.` in the middle do not count. -/
namespace Missive.FilePaths

open RustText (Text)

inductive Component where
  | rootDir
  | curDir
  | parentDir
  | normal (name : Text)
  deriving DecidableEq

def part (piece : Text) : Option Component :=
  if piece = [] ∨ piece = ['.'] then none
  else if piece = ['.', '.'] then some .parentDir
  else some (.normal piece)

def parts (path : Text) : List Component := (path.splitOn '/').filterMap part

def isAbsolute (path : Text) : Bool := path.head? == some '/'

-- What stands before the parts: the root, or a leading `.`.
def lead (path : Text) : List Component :=
  if isAbsolute path then [.rootDir]
  else if (path.splitOn '/').head? = some ['.'] then [.curDir]
  else []

def components (path : Text) : List Component := lead path ++ parts path

-- `PathBuf` equality
def SamePath (first last : Text) : Prop := components first = components last

instance (first last : Text) : Decidable (SamePath first last) :=
  inferInstanceAs (Decidable (components first = components last))

-- `Path::join`
def join (base path : Text) : Text :=
  if isAbsolute path then path
  else if base.getLast?.all (· == '/') then base ++ path
  else base ++ '/' :: path

theorem parts_slash (front back : Text) : parts (front ++ '/' :: back) = parts front ++ parts back := by
  unfold parts
  rw [List.splitOn_append_cons_self, List.filterMap_append]

theorem parts_trailing (front : Text) : parts (front ++ ['/']) = parts front := by
  rw [parts_slash]
  exact List.append_nil _

theorem absolute_cons {path : Text} (absolute : isAbsolute path = true) :
    ∃ rest, path = '/' :: rest := by
  cases path with
  | nil => cases absolute
  | cons c rest =>
      refine ⟨rest, ?_⟩
      have root : c = '/' := by simpa [isAbsolute] using absolute
      rw [root]

theorem components_absolute {path : Text} (absolute : isAbsolute path = true) :
    components path = .rootDir :: parts path := by
  unfold components lead
  rw [if_pos absolute]
  rfl

theorem isAbsolute_append {base path : Text} (absolute : isAbsolute base = true) :
    isAbsolute (base ++ path) = true := by
  obtain ⟨rest, rfl⟩ := absolute_cons absolute
  rfl

theorem isAbsolute_join {base path : Text} (absolute : isAbsolute base = true) :
    isAbsolute (join base path) = true := by
  unfold join
  split
  · assumption
  · split
    · exact isAbsolute_append absolute
    · exact isAbsolute_append absolute

theorem parts_join {base path : Text} (absolute : isAbsolute base = true)
    (relative : isAbsolute path = false) : parts (join base path) = parts base ++ parts path := by
  unfold join
  rw [relative]
  simp only [Bool.false_eq_true, if_false]
  by_cases ended : (base.getLast?.all (· == '/')) = true
  · rw [if_pos ended]
    -- The base ends in the separator, which adds no part of its own.
    obtain ⟨front, shown⟩ : ∃ front, base = front ++ ['/'] := by
      cases last : base.getLast? with
      | none =>
          rw [List.getLast?_eq_none_iff.mp last] at absolute
          cases absolute
      | some c =>
          rw [last] at ended
          have slash : c = '/' := by simpa using ended
          exact List.getLast?_eq_some_iff.mp (slash ▸ last)
    rw [shown, List.append_assoc, List.singleton_append, parts_slash, parts_trailing]
  · rw [if_neg ended]
    exact parts_slash base path

/-- Joining a relative path appends its parts. -/
theorem components_join {base path : Text} (absolute : isAbsolute base = true)
    (relative : isAbsolute path = false) :
    components (join base path) = components base ++ parts path := by
  rw [components_absolute (isAbsolute_join absolute), components_absolute absolute,
    parts_join absolute relative]
  rfl

theorem parts_name {name : Text} (filled : name ≠ []) (solid : '/' ∉ name) (here : name ≠ ['.'])
    (up : name ≠ ['.', '.']) : parts name = [.normal name] := by
  unfold parts
  rw [List.splitOn_eq_singleton solid]
  simp [part, filled, here, up]

end Missive.FilePaths
