import GuidedSynthesis.Disk
import GuidedSynthesis.Request
import GuidedSynthesis.Toml.Printer
/-!
Throw-away projects: a fresh directory with a manifest and the sources of one validation.

Every path of the sources is checked before anything is written, and a build that fails takes its
directory away again.
-/

namespace GuidedSynthesis

/-- A path that stays below the directory it is joined to: not empty, not absolute, never up. -/
def isContained (path : String) : Bool :=
  path ≠ "" && !Path.isAbsolute path && !(Path.steps path).contains Path.up

/-- Refuses a path that could lead out of the project. -/
def checkedPath (path : String) : Result String :=
  if isContained path then .ok path else .error (.invalidSourcePath path)

/-- A project on disk: the path of its directory, its module and the paths of its sources. -/
structure Project where
  root : String
  module : ModuleDescriptor
  sourcePaths : List String
  deriving DecidableEq, Repr

namespace Project

/-- How the name of every throw-away directory starts. -/
def directoryPrefix : String := "ballerina-np-codegen-diagnostics-dir-"

def manifestName : String := "Ballerina.toml"

/-- The manifest of a module. -/
def manifest (module : ModuleDescriptor) : Result String :=
  match Toml.render? [("package", [("org", .string module.organization),
    ("name", .string module.name), ("version", .string module.version)])] with
  | some text => .ok text
  | none => .error (.tomlWrite "unsupported value")

/-- Makes the directories that a file lies in, and writes it. -/
def writeFile (disk : Disk) (path content : String) : Except Disk.Fault Unit × Disk :=
  Disk.andThen (disk.makeDirectories (Path.parent path)) fun disk => disk.writeText path content

/-- Writes files in order, up to the first that cannot be written. -/
def writeFiles (root : String) (disk : Disk) : List SourceFile → Except Disk.Fault Unit × Disk
  | [] => (.ok (), disk)
  | file :: more =>
    Disk.andThen (writeFile disk (Path.join root file.path) file.content) fun disk =>
      writeFiles root disk more

/-- Makes a directory that is not there yet in a directory that is. -/
def makeRoot (disk : Disk) (parent name : String) : Except Disk.Fault Disk :=
  match disk.find parent with
  | .error fault => .error fault
  | .ok (.file _) => .error .notADirectory
  | .ok (.directory _) =>
    match disk.walk (disk.start parent) (Path.steps parent) with
    | .error fault => .error fault
    | .ok location => .ok (disk.put location name (.directory []))

/-- Takes a directory away with all it holds. -/
def removeRoot (disk : Disk) (parent name : String) : Disk :=
  match disk.walk (disk.start parent) (Path.steps parent) with
  | .error _ => disk
  | .ok location =>
    { disk with root := disk.root.modify (fun entries => entries.remove name) location }

/-- Builds a project of a module in the directory `name`, which is not there yet, below `parent`. -/
def build (disk : Disk) (parent name : String) (module : ModuleDescriptor) (sources : SourceSet) :
    Result Project × Disk :=
  match sources.paths.mapM checkedPath with
  | .error failure => (.error failure, disk)
  | .ok paths =>
    match makeRoot disk parent name with
    | .error fault => (.error (.io fault), disk)
    | .ok made =>
      let root := Path.join parent name
      match manifest module with
      | .error failure => (.error failure, removeRoot made parent name)
      | .ok manifest =>
        match made.writeText (Path.join root manifestName) manifest with
        | (.error fault, disk) => (.error (.io fault), removeRoot disk parent name)
        | (.ok (), disk) =>
          match writeFiles root disk sources.files with
          | (.error fault, disk) => (.error (.io fault), removeRoot disk parent name)
          | (.ok (), disk) => (.ok ⟨root, module, paths.map (Path.join root)⟩, disk)

/-- A source of a project, by its path below the project's directory. -/
def readSource (p : Project) (disk : Disk) (path : String) : Result String := do
  (disk.readText (Path.join p.root (← checkedPath path))).mapError .io

end Project

/-- Where a throw-away project is made: a disk, a directory on it, and the name of the project's own
directory, which is not there yet. -/
structure Scratch where
  disk : Disk
  directory : String
  name : String

/-- A directory in which nothing is. -/
def Scratch.empty : Scratch :=
  ⟨⟨[("tmp", .directory [])], []⟩, "/tmp", Project.directoryPrefix ++ "0"⟩

end GuidedSynthesis
