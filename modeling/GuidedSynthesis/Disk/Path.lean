import GuidedSynthesis.Text.Search
/-!
Paths as texts.

A path is cut at each `/`. Empty pieces and the pieces `.` lead nowhere and are dropped; what is left
are the steps of the path (`Path.steps`), of which `..` goes up. A path that starts with `/` starts
at the top.
-/

namespace GuidedSynthesis.Path

def pieces (path : String) : List String := (Text.pieces '/' path.toList).map String.ofList

/-- A piece that leads nowhere. -/
def isIdle (piece : String) : Bool := piece = "" || piece = "."

/-- The steps of a path. -/
def steps (path : String) : List String := (pieces path).filter (!isIdle ·)

/-- The step to the directory above. -/
def up : String := ".."

def isAbsolute (path : String) : Bool := path.toList.head? = some '/'

/-- A path below another one. An absolute path stays what it is. -/
def join (base path : String) : String :=
  if isAbsolute path then path
  else if base = "" ∨ base.toList.getLast? = some '/' then base ++ path
  else base ++ "/" ++ path

/-- Does the form of the path ask for a directory? -/
def namesDirectory (path : String) : Bool :=
  match (pieces path).getLast? with
  | some piece => isIdle piece || piece = up
  | none => true

/-- Is the last piece of the path, slashes at its end apart, the step to the directory itself? -/
def endsInHere (path : String) : Bool := (pieces path).reverse.find? (· ≠ "") = some "."

/-- The pieces without those at the end that lead nowhere. -/
def withoutIdleEnd (pieces : List String) : List String :=
  (pieces.reverse.dropWhile isIdle).reverse

/-- The path without its last step. -/
def parent (path : String) : String :=
  "/".intercalate (withoutIdleEnd (withoutIdleEnd (pieces path)).dropLast)

/-- The name of the file that a path leads to, if its last step is a name. -/
def fileName? (path : String) : Option String :=
  match (steps path).getLast? with
  | some name => if name = up then none else some name
  | none => none

/-- What follows the last point of a name; a point at the start counts as part of the name. -/
def extension? (path : String) : Option String :=
  match fileName? path with
  | none => none
  | some name =>
    let reversed := name.toList.reverse
    let after := reversed.takeWhile (· ≠ '.')
    match reversed.dropWhile (· ≠ '.') with
    | _ :: _ :: _ => some (String.ofList after.reverse)
    | _ => none

end GuidedSynthesis.Path
