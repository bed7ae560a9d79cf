import GuidedSynthesis.Answer
import GuidedSynthesis.CommandLine.Grammar
import GuidedSynthesis.Resolver
/-!
The command line: which service the variables choose, the prompts for a function or an expression,
the code in a saved answer, and the settings.

A run is a function of the arguments, the variables and the disk. Nothing is printed by a run that
fails but its message, because all that is needed is read before anything is printed.
-/

namespace GuidedSynthesis.CommandLine

/-! ## Grammar -/

def helpOption : Opt := ⟨"help", some 'h', .help⟩

/-- Options of every command. -/
def everywhere : List Opt :=
  [⟨"verbose", some 'v', .nothingOften⟩, ⟨"log-format", none, .oneOf ["text", "json"]⟩,
    ⟨"no-color", none, .nothing⟩, ⟨"config", some 'c', .path⟩, helpOption]

def functionOptions : List Opt :=
  [⟨"name", none, .text⟩, ⟨"generated-name", none, .text⟩, ⟨"prompt", none, .text⟩,
    ⟨"source", none, .paths⟩, ⟨"library", none, .texts⟩, ⟨"system", none, .nothing⟩]

def expressionOptions : List Opt := [⟨"expected-type", none, .text⟩, ⟨"prompt", none, .text⟩]

def grammar : Grammar :=
  .mk (everywhere ++ [⟨"version", some 'V', .version⟩]) 0
    [("provider", .mk everywhere 0 []),
      ("prompt", .mk everywhere 0
        [("function", .mk (everywhere ++ functionOptions) 0 []),
          ("expression", .mk (everywhere ++ expressionOptions) 0 [])]),
      ("extract", .mk everywhere 1 []),
      ("config", .mk everywhere 0
        [("show", .mk everywhere 0 []),
          ("init", .mk (everywhere ++ [⟨"force", none, .nothing⟩]) 0 [])])]

/-! ## Commands -/

inductive Command where
  /-- Names the service that the variables choose. -/
  | service
  | functionPrompt (name generatedName prompt : String) (sources libraries : List String)
    (system : Bool)
  | expressionPrompt (expectedType prompt : String)
  | extract (file : String)
  | showSettings
  | saveSettings (force : Bool)
  deriving DecidableEq, Repr

/-- What follows the name of a function in the name of the generated one, if none is given. -/
def generatedSuffix : String := "NPGenerated"

def Command.ofReading? (r : Reading) : Option Command := do
  let level ← r.levels.getLast?
  match r.commands with
  | ["provider"] => some .service
  | ["prompt", "function"] =>
    let name ← level.value? "name"
    let prompt ← level.value? "prompt"
    let generatedName := (level.value? "generated-name").getD (name ++ generatedSuffix)
    some (.functionPrompt name generatedName prompt (level.values "source")
      (level.values "library") (level.has "system"))
  | ["prompt", "expression"] =>
    some (.expressionPrompt (← level.value? "expected-type") (← level.value? "prompt"))
  | ["extract"] => some (.extract (← level.operands.head?))
  | ["config", "show"] => some .showSettings
  | ["config", "init"] => some (.saveSettings (level.has "force"))
  | _ => none

/-- A command with the settings file and the way of printing. -/
structure Order where
  command : Command
  settingsPath : Option String
  isPlain : Bool
  deriving DecidableEq, Repr

/-- The variable that names the settings file. -/
def settingsVariable : String := "NPCG_CONFIG"

/-- The settings file: as given at the innermost level, or else by the variable. The variable counts
at every level at which no file is given, and no level takes an empty path. -/
def settingsPathOf (r : Reading) (environment : Environment) : Except Stop (Option String) :=
  if environment settingsVariable = some "" ∧ r.levels.any (!·.has "config") then .error .misuse
  else .ok ((r.levels.reverse.findSome? (·.value? "config")).or (environment settingsVariable))

def Order.read (arguments : List String) (environment : Environment) : Except Stop Order := do
  let r ← grammar.read arguments
  let settingsPath ← settingsPathOf r environment
  match Command.ofReading? r with
  | some command => .ok ⟨command, settingsPath, r.levels.any (·.has "no-color")⟩
  | none => .error .misuse

/-! ## Running -/

/-- Why a command fails. -/
inductive Refusal where
  | failed (failure : Failure)
  /-- The settings have no TOML text. -/
  | unprintable (message : String)
  | unreadable (path : String) (fault : Disk.Fault)
  | noCode (path : String)
  | alreadyThere (path : String)
  deriving DecidableEq, Repr

namespace Refusal

/-- The message and its cause. -/
def lines : Refusal → String × Option String
  | failed (.io fault) => ((Failure.io fault).message, some fault.message)
  | failed failure => (failure.message, none)
  | unprintable message => (message, none)
  | unreadable path fault => ("Failed to read " ++ path, some fault.message)
  | noCode path => ("No ```ballerina code block found in " ++ path, none)
  | alreadyThere path => (path ++ " already exists, pass --force to overwrite", none)

def text (r : Refusal) : String :=
  match r.lines with
  | (message, none) => "Error: " ++ message ++ "\n"
  | (message, some cause) => "Error: " ++ message ++ "\n\nCaused by:\n    " ++ cause ++ "\n"

end Refusal

/-- A text in bold or in green on a terminal that shows it. -/
structure Paint where
  isColored : Bool
  deriving DecidableEq, Repr

namespace Paint

def styled (p : Paint) (code text : String) : String :=
  if p.isColored then "\x1b[" ++ code ++ "m" ++ text ++ "\x1b[0m" else text

def bold (p : Paint) (text : String) : String := p.styled "1" text

def green (p : Paint) (text : String) : String := p.styled "32" text

/-- Output is no terminal, so it is coloured only if the variable asks for it. -/
def ofOrder (order : Order) (environment : Environment) : Paint :=
  ⟨!order.isPlain && (environment "CLICOLOR_FORCE").any (· ≠ "0")⟩

end Paint

/-- The home directory: the one that the variable names, or else the one on record. -/
def home? (environment : Environment) (onRecord : Option String) : Option String :=
  ((environment "HOME").filter (· ≠ "")).or onRecord

/-- Where the settings of the user are. -/
def userSettings (environment : Environment) (onRecord : Option String) : Result String :=
  match home? environment onRecord with
  | some home => .ok (Settings.userPath home)
  | none => .error (.configuration .noHome)

/-- The settings to work with. Without a file of the user the defaults hold. -/
def loadSettings (order : Order) (environment : Environment) (onRecord : Option String)
    (disk : Disk) : Result Settings := do
  match order.settingsPath with
  | some path => Settings.load disk path
  | none =>
    let path ← userSettings environment onRecord
    if disk.exists? path then Settings.load disk path else .ok Settings.default

/-- A run so far can be refused. -/
abbrev Outcome := Except Refusal

def readFile (disk : Disk) (path : String) : Outcome String :=
  (disk.readText path).mapError (.unreadable path)

def readSources (disk : Disk) (paths : List String) : Outcome SourceSet := do
  let files ← paths.mapM fun path => do
    let content ← readFile disk path
    .ok (⟨path, content⟩ : SourceFile)
  .ok ⟨files⟩

/-- Prompts with the named libraries, or with the bundled reference if none is named. -/
def promptsFor (settings : Settings) (libraries : List String) : Result Prompts := do
  if libraries.isEmpty then .ok Prompts.bundled
  else
    let catalog ← StaticCatalog.bundled
    Prompts.ofCatalog catalog.toCatalog libraries settings.largeLibraryThreshold.toNat

def line (text : String) : String := text ++ "\n"

def showService (paint : Paint) (settings : Settings) (environment : Environment) :
    Outcome String := do
  let service ← ((Resolver.ofSettings settings).get environment).1.mapError Refusal.failed
  .ok (line (paint.bold "Active provider:" ++ " " ++ paint.green service.name))

/-- The prompt for a function, after the instructions if these are asked for. -/
def showFunctionPrompt (paint : Paint) (settings : Settings) (disk : Disk)
    (name generatedName prompt : String) (sources libraries : List String) (system : Bool) :
    Outcome String := do
  let prompts ← (promptsFor settings libraries).mapError Refusal.failed
  let files ← readSources disk sources
  let useCase := Prompt.functionUseCase name generatedName prompt
  let instructions :=
    if system then
      line (paint.bold "# System") ++ line Prompt.systemOpening ++
        line (Prompt.systemInstructions prompts)
    else ""
  .ok (instructions ++ line (paint.bold "# User") ++ line (Prompt.query useCase files))

def expressionPrompt (expectedType prompt : String) : String :=
  line (Prompt.constantUseCase ⟨expectedType⟩ [.text prompt] .empty "main.bal")

def extractCode (disk : Disk) (file : String) : Outcome String := do
  match Answer.code? (← readFile disk file) with
  | some code => .ok (line code)
  | none => .error (.noCode file)

def showSettings (settings : Settings) : Outcome String :=
  match settings.toToml with
  | .ok text => .ok text
  | .error (.tomlWrite message) => .error (.unprintable message)
  | .error failure => .error (.failed failure)

/-- Writes the default settings to a file, over another one only if that is wanted. -/
def saveSettings (paint : Paint) (disk : Disk) (path : String) (force : Bool) :
    Outcome String × Disk :=
  if disk.exists? path && !force then (.error (.alreadyThere path), disk)
  else
    match Settings.default.save disk path with
    | (.ok (), disk) => (.ok (line (paint.green "Wrote" ++ " " ++ path)), disk)
    | (.error failure, disk) => (.error (.failed failure), disk)

/-- What a command prints, and the disk after it. -/
def perform (order : Order) (environment : Environment) (onRecord : Option String)
    (disk : Disk) : Outcome String × Disk :=
  let paint := Paint.ofOrder order environment
  let settings := (loadSettings order environment onRecord disk).mapError Refusal.failed
  match order.command with
  | .service => (do showService paint (← settings) environment, disk)
  | .functionPrompt name generatedName prompt sources libraries system =>
    (do
      showFunctionPrompt paint (← settings) disk name generatedName prompt sources libraries system,
      disk)
  | .expressionPrompt expectedType prompt =>
    (settings.map fun _ => expressionPrompt expectedType prompt, disk)
  | .extract file => (extractCode disk file, disk)
  | .showSettings => (do showSettings (← settings), disk)
  | .saveSettings force =>
    match order.settingsPath.map .ok |>.getD (userSettings environment onRecord) with
    | .ok path => saveSettings paint disk path force
    | .error failure => (.error (.failed failure), disk)

/-- How a run ends. -/
structure Exit where
  code : Nat
  output : String
  errors : String
  disk : Disk

def version : String := "npcg 0.3.0"

def usage : String :=
  "Usage: npcg [OPTIONS] <COMMAND>\n\nCommands:\n  provider\n  prompt function|expression\n" ++
    "  extract <FILE>\n  config show|init\n"

/-- Runs the program. The system has a home directory on record for the user, or none. -/
def run (arguments : List String) (environment : Environment) (onRecord : Option String)
    (disk : Disk) : Exit :=
  match Order.read arguments environment with
  | .error .misuse => ⟨2, "", usage, disk⟩
  | .error .help => ⟨0, usage, "", disk⟩
  | .error .version => ⟨0, line version, "", disk⟩
  | .ok order =>
    match perform order environment onRecord disk with
    | (.ok output, disk) => ⟨0, output, "", disk⟩
    | (.error refusal, disk) => ⟨1, "", refusal.text, disk⟩

/-! ## The outside -/

/-- The variables that a run may ask for. -/
def variableNames : List String :=
  [settingsVariable, "HOME", "CLICOLOR_FORCE", Selection.anthropicToken] ++ Selection.azureNames ++
    [Selection.openaiToken] ++ Selection.copilotNames

/-- The paths at which a run may look. -/
def pathsOf (arguments : List String) (environment : Environment) (onRecord : Option String) :
    List String :=
  match Order.read arguments environment with
  | .error _ => []
  | .ok order =>
    let settings := order.settingsPath.toList ++
      (userSettings environment onRecord).toOption.toList
    match order.command with
    | .functionPrompt _ _ _ sources _ _ => settings ++ sources
    | .extract file => settings ++ [file]
    | _ => settings

end GuidedSynthesis.CommandLine
