import GuidedSynthesis.Json.Record
/-!
Source files of a project, in order.

The order is that in which the files are sent and written, and a path may stand more than once:
`SourceSet.get?` and `SourceSet.replace` then mean the first file of that path. Replacing a file's
content moves no file (`paths_replace`). A file that was added at the end is the one that is replaced
only if no file of its path stands before it (`replace_push_of_holds`,
`replace_push_of_not_holds`).
-/

namespace GuidedSynthesis

/-- A file with its path relative to the root of the project. -/
structure SourceFile where
  path : String
  content : String
  deriving DecidableEq, Repr

namespace SourceFile

def toJson (f : SourceFile) : Json :=
  .object [("filePath", .string f.path), ("content", .string f.content)]

def decode : Json.Decoder SourceFile := fun depth document => do
  let [path, content] ← document.slots? ["filePath", "content"] depth | none
  some ⟨← path.required .text, ← content.required .text⟩

instance : Json.Codec SourceFile := ⟨toJson, decode⟩

end SourceFile

structure SourceSet where
  files : List SourceFile
  deriving DecidableEq, Repr

namespace SourceSet

def empty : SourceSet := ⟨[]⟩

def size (s : SourceSet) : Nat := s.files.length

def isEmpty (s : SourceSet) : Bool := s.files.isEmpty

def paths (s : SourceSet) : List String := s.files.map SourceFile.path

/-- Adds a file at the end. -/
def push (s : SourceSet) (file : SourceFile) : SourceSet := ⟨s.files ++ [file]⟩

/-- The content of the first file at a path. -/
def get? (s : SourceSet) (path : String) : Option String :=
  (s.files.find? (·.path = path)).map SourceFile.content

/-- Is there a file at the path? -/
def holds (s : SourceSet) (path : String) : Bool := s.files.any (·.path = path)

/-- The files with the first one of a path given another content. -/
def replaceIn (path content : String) : List SourceFile → List SourceFile
  | [] => []
  | file :: more =>
    if file.path = path then { file with content } :: more
    else file :: replaceIn path content more

/-- Gives the first file at a path another content; a path that is not there changes nothing. -/
def replace (s : SourceSet) (path content : String) : SourceSet := ⟨replaceIn path content s.files⟩

/-- The files of other paths. -/
def without (s : SourceSet) (path : String) : SourceSet := ⟨s.files.filter (·.path ≠ path)⟩

def toJson (s : SourceSet) : Json := .array (s.files.map SourceFile.toJson)

def decode : Json.Decoder SourceSet := fun depth document =>
  (Json.Decoder.list SourceFile.decode depth document).map SourceSet.mk

instance : Json.Codec SourceSet := ⟨toJson, decode⟩

@[simp] theorem paths_push (s : SourceSet) (file : SourceFile) :
    (s.push file).paths = s.paths ++ [file.path] := by
  simp [paths, push]

theorem paths_replace (s : SourceSet) (path content : String) :
    (s.replace path content).paths = s.paths := by
  obtain ⟨files⟩ := s
  simp only [paths, replace]
  induction files with
  | nil => rfl
  | cons file files ih =>
    by_cases h : file.path = path <;> simp [replaceIn, h, ih]

@[simp] theorem holds_replace (s : SourceSet) (path content other : String) :
    (s.replace path content).holds other = s.holds other := by
  obtain ⟨files⟩ := s
  simp only [holds, replace]
  induction files with
  | nil => rfl
  | cons file files ih =>
    by_cases h : file.path = path <;> simp [replaceIn, h, ih]

/-- What was added at the end is not reached if the path is there already. -/
theorem replace_push_of_holds {s : SourceSet} {path : String} (h : s.holds path = true)
    (content : String) (file : SourceFile) :
    (s.push file).replace path content = (s.replace path content).push file := by
  obtain ⟨files⟩ := s
  simp only [push, replace, holds, mk.injEq] at *
  induction files with
  | nil => simp at h
  | cons first files ih =>
    by_cases hp : first.path = path
    · simp [replaceIn, hp]
    · simp only [List.any_cons, hp, decide_false, Bool.false_or] at h
      simp [replaceIn, hp, ih h]

theorem replace_push_of_not_holds {s : SourceSet} {file : SourceFile}
    (h : s.holds file.path = false) (content : String) :
    (s.push file).replace file.path content = s.push { file with content } := by
  obtain ⟨files⟩ := s
  simp only [push, replace, holds, mk.injEq] at *
  induction files with
  | nil => simp [replaceIn]
  | cons first files ih =>
    rw [List.any_cons, Bool.or_eq_false_iff, decide_eq_false_iff_not] at h
    obtain ⟨hp, hrest⟩ := h
    simp [replaceIn, hp, ih hrest]

end SourceSet

end GuidedSynthesis
