import GuidedSynthesis.Project
/-!
Artifacts: the generated code that is kept in the user's project, one file for each declaration.
-/

namespace GuidedSynthesis.Artifact

/-- The path of a declaration's artifact in the project at `root`. -/
def pathFor (root symbol : String) : Result String :=
  (checkedPath (artifactPath symbol)).map (Path.join root)

/-- Stores the code of a declaration in place of what was stored before; returns its path. -/
def persist (root : String) (disk : Disk) (symbol code : String) : Result String × Disk :=
  match pathFor root symbol with
  | .error failure => (.error failure, disk)
  | .ok path =>
    match disk.makeDirectories (Path.parent path) with
    | (.error fault, disk) =>
      (.error (.withContext ("Failed to create " ++ Path.parent path) (.io fault)), disk)
    | (.ok (), disk) =>
      match disk.writeText path code with
      | (.error fault, disk) =>
        (.error (.withContext ("Failed to write " ++ path) (.io fault)), disk)
      | (.ok (), disk) => (.ok path, disk)

/-- The stored code of a declaration, if there is any. -/
def load (root : String) (disk : Disk) (symbol : String) : Result (Option String) := do
  let path ← pathFor root symbol
  if disk.exists? path then (disk.readText path).mapError .io |>.map some else .ok none

end GuidedSynthesis.Artifact
