import GuidedSynthesis.Disk.Fault
import GuidedSynthesis.Disk.Path
/-!
A disk: a tree of directories and files, and the working directory.

A path is followed step by step, and every step but the last has to be a directory. An operation that
fails half-way leaves what it has done so far, so operations that write return the disk in any case.
-/

namespace GuidedSynthesis

/-- What a file holds: a text, or bytes that are no text. -/
inductive Content where
  | text (s : String)
  | bytes (bs : List UInt8)
  deriving DecidableEq, Repr

inductive Node where
  | file (content : Content)
  | directory (entries : List (String × Node))

abbrev Entries := List (String × Node)

namespace Entries

/-- Replaces an entry, or adds it at the end. -/
def set (entries : Entries) (name : String) (node : Node) : Entries :=
  match entries with
  | [] => [(name, node)]
  | (n, old) :: more => if n = name then (n, node) :: more else (n, old) :: set more name node

def remove (entries : Entries) (name : String) : Entries := entries.filter (·.1 ≠ name)

/-- What is at a location; the empty location is this directory itself. -/
def get? (entries : Entries) : List String → Option Node
  | [] => some (.directory entries)
  | name :: more =>
    match entries.lookup name with
    | none => none
    | some (.directory inner) => get? inner more
    | some (.file content) => if more.isEmpty then some (.file content) else none

/-- Changes the directory at a location; nothing happens if there is none. -/
def modify (entries : Entries) (f : Entries → Entries) : List String → Entries
  | [] => f entries
  | name :: more =>
    match entries.lookup name with
    | some (.directory inner) => entries.set name (.directory (modify inner f more))
    | _ => entries

end Entries

structure Disk where
  root : Entries
  /-- The location of the working directory. -/
  workingDirectory : List String

namespace Disk

/-- Names may not be longer than 255 bytes. -/
def isTooLong (name : String) : Bool := 255 < name.utf8ByteSize

/-- Paths may not be longer than 4095 bytes, however few steps they have. -/
def isPathTooLong (path : String) : Bool := 4095 < path.utf8ByteSize

/-- The location that steps lead to from a directory. -/
def walk (disk : Disk) (here : List String) : List String → Except Fault (List String)
  | [] => .ok here
  | step :: more =>
    match disk.root.get? here with
    | none => .error .notFound
    | some (.file _) => .error .notADirectory
    | some (.directory entries) =>
      if step = Path.up then walk disk here.dropLast more
      else if isTooLong step then .error .nameTooLong
      else if (entries.lookup step).isSome then walk disk (here ++ [step]) more
      else .error .notFound

/-- Where a path starts. -/
def start (disk : Disk) (path : String) : List String :=
  if Path.isAbsolute path then [] else disk.workingDirectory

/-- What is wrong with a path that no file system takes: empty, too long, or with a NUL in it. -/
def pathFault? (path : String) : Option Fault :=
  if path.toList.contains (Char.ofNat 0) then some .nulInName
  else if path = "" then some .notFound
  else if isPathTooLong path then some .nameTooLong
  else none

/-- What a path leads to. -/
def find (disk : Disk) (path : String) : Except Fault Node := do
  if let some fault := pathFault? path then throw fault
  let location ← disk.walk (disk.start path) (Path.steps path)
  match disk.root.get? location with
  | some (.directory entries) => .ok (.directory entries)
  | some (.file content) =>
    if Path.namesDirectory path then .error .notADirectory else .ok (.file content)
  | none => .error .notFound

def exists? (disk : Disk) (path : String) : Bool :=
  match disk.find path with
  | .ok _ => true
  | .error _ => false

/-- The text of a file. -/
def readText (disk : Disk) (path : String) : Except Fault String := do
  match ← disk.find path with
  | .file (.text s) => .ok s
  | .file (.bytes _) => .error .notText
  | .directory _ => .error .isADirectory

/-- Goes on with the disk that an operation left, unless the operation failed. -/
def andThen (done : Except Fault Unit × Disk) (next : Disk → Except Fault Unit × Disk) :
    Except Fault Unit × Disk :=
  match done with
  | (.ok (), disk) => next disk
  | (.error fault, disk) => (.error fault, disk)

theorem andThen_eq_ok_iff {done : Except Fault Unit × Disk} {next : Disk → Except Fault Unit × Disk}
    {disk : Disk} :
    andThen done next = (.ok (), disk) ↔
      ∃ left, done = (.ok (), left) ∧ next left = (.ok (), disk) := by
  match done with
  | (.ok (), left) => simp [andThen]
  | (.error fault, left) => simp [andThen]

/-- Puts a node under a name of the directory at a location. -/
def put (disk : Disk) (location : List String) (name : String) (node : Node) : Disk :=
  { disk with root := disk.root.modify (fun entries => entries.set name node) location }

/-- Makes the directories that steps lead through. A file in the place of one of them is in the way:
it is no directory to go on from, and where the last one is to be made it exists already. -/
def makeSteps (disk : Disk) (here : List String) : List String → Except Fault Unit × Disk
  | [] => (.ok (), disk)
  | step :: more =>
    match disk.root.get? here with
    | none => (.error .notFound, disk)
    | some (.file _) => (.error .notADirectory, disk)
    | some (.directory entries) =>
      if step = Path.up then makeSteps disk here.dropLast more
      else if isTooLong step then (.error .nameTooLong, disk)
      else
        match entries.lookup step with
        | some (.directory _) => makeSteps disk (here ++ [step]) more
        | some (.file _) =>
          (.error (if more.isEmpty then .alreadyExists else .notADirectory), disk)
        | none => makeSteps (disk.put here step (.directory [])) (here ++ [step]) more

/-- Makes a directory and those it lies in; the empty path stands for no directory. -/
def makeDirectories (disk : Disk) (path : String) : Except Fault Unit × Disk :=
  if path = "" then (.ok (), disk)
  else
    match pathFault? path with
    | some fault => (.error fault, disk)
    | none => disk.makeSteps (disk.start path) (Path.steps path)

/-- Why no file can be written at a path that ends in the step to the directory itself: what is
before that step has to be a directory, and then the path leads to one. -/
def directoryFault (disk : Disk) (path : String) : Fault :=
  match disk.walk (disk.start path) (Path.steps path) with
  | .error fault => fault
  | .ok location =>
    match disk.root.get? location with
    | some (.file _) => .notADirectory
    | _ => .isADirectory

/-- Where a file can be written: the location of its directory, and its name. A path whose form asks
for a directory is refused as such, whatever it leads to. -/
def target (disk : Disk) (path : String) : Except Fault (List String × String) := do
  if let some fault := pathFault? path then throw fault
  else if Path.endsInHere path then throw (disk.directoryFault path)
  else match (Path.steps path).getLast? with
  | none => .error .isADirectory
  | some name =>
    let location ← disk.walk (disk.start path) (Path.steps path).dropLast
    match disk.root.get? location with
    | some (.directory entries) =>
      if Path.namesDirectory path then .error .isADirectory
      else if isTooLong name then .error .nameTooLong
      else
        match entries.lookup name with
        | some (.directory _) => .error .isADirectory
        | _ => .ok (location, name)
    | some (.file _) => .error .notADirectory
    | none => .error .notFound

/-- Writes a file, in place of what it held. -/
def writeText (disk : Disk) (path content : String) : Except Fault Unit × Disk :=
  match disk.target path with
  | .ok (location, name) => (.ok (), disk.put location name (.file (.text content)))
  | .error fault => (.error fault, disk)

mutual

/-- The files of a node with their paths below `base`. -/
def nodeFiles (base : List String) : Node → List (List String × Content)
  | .file content => [(base, content)]
  | .directory entries => entryFiles base entries

def entryFiles (base : List String) : List (String × Node) → List (List String × Content)
  | [] => []
  | (name, node) :: more => nodeFiles (base ++ [name]) node ++ entryFiles base more

end

/-- The files below a location, with their paths from there in ascending order. -/
def filesBelow (disk : Disk) (location : List String) : List (String × Content) :=
  match disk.root.get? location with
  | some node =>
    ((nodeFiles [] node).map fun (path, content) => ("/".intercalate path, content)).mergeSort
      fun a b => decide (a.1 ≤ b.1)
  | none => []

end Disk

end GuidedSynthesis
