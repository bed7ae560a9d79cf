import GuidedSynthesis.CommandLine
import GuidedSynthesis.CommandLine.Account
/-!
The program. It takes the arguments, the variables and the files that a run may look at, lets the
run decide, and carries out what was decided.
-/

namespace GuidedSynthesis.CommandLine

/-- What is found at a path; whatever is there and cannot be read counts as a directory. -/
def entryAt (path : String) : IO (Option Node) := do
  try
    let bytes ← IO.FS.readBinFile path
    match String.fromUTF8? bytes with
    | some text => return some (.file (.text text))
    | none => return some (.file (.bytes bytes.toList))
  catch
    | .noFileOrDirectory .. => return none
    | _ => return some (.directory [])

/-- Adds to a disk what is found at a path. -/
def addPath (disk : Disk) (path : String) : IO Disk := do
  match ← entryAt path with
  | none => return disk
  | some (.directory _) => return (disk.makeDirectories path).2
  | some node =>
    let disk := (disk.makeDirectories (Path.parent path)).2
    match disk.target path with
    | .ok (location, name) => return disk.put location name node
    | .error _ => return disk

/-- Writes a file that a run has changed. -/
def carryOut (before after : Disk) (path : String) : IO Unit := do
  match (after.readText path).toOption with
  | some text =>
    if (before.readText path).toOption ≠ some text then
      let parent := Path.parent path
      if parent ≠ "" then IO.FS.createDirAll parent
      IO.FS.writeFile path text
  | none => return

/-- The variables that a run may ask for. -/
def readEnvironment : IO Environment := do
  let values ← variableNames.mapM fun name => return (name, ← IO.getEnv name)
  return fun name => (values.lookup name).join

/-- The text of a file that may not be there. -/
def textAt (path : String) : IO String := do
  try IO.FS.readFile path catch _ => return ""

/-- The home directory on record. -/
def readAccount : IO (Option String) := do
  return Account.home? (← textAt "/proc/self/status") (← textAt "/etc/passwd")

end GuidedSynthesis.CommandLine

open GuidedSynthesis CommandLine

def main (arguments : List String) : IO UInt32 := do
  let environment ← readEnvironment
  let here := toString (← IO.currentDir)
  let onRecord ← readAccount
  let paths := pathsOf arguments environment onRecord
  let start := ((Disk.mk [] (Path.steps here)).makeDirectories here).2
  let disk ← paths.foldlM addPath start
  let exit := run arguments environment onRecord disk
  paths.forM fun path => carryOut disk exit.disk path
  IO.print exit.output
  IO.eprint exit.errors
  return UInt32.ofNat exit.code
