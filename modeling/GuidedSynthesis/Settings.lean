import GuidedSynthesis.Disk
import GuidedSynthesis.Failure
import GuidedSynthesis.Json.Printer
import GuidedSynthesis.Json.Record
import GuidedSynthesis.Toml.Document
import GuidedSynthesis.Toml.Printer
/-!
Settings, and their files in TOML or JSON.

Whatever a file leaves out has its default value, and what it says beyond the known settings is
ignored. A file is judged by the extension of its name; what is read from a file is checked, what is
saved is not.
-/

namespace GuidedSynthesis

/-- The settings of a model: where it is and how it is to answer. -/
structure ModelSettings where
  endpoint : String
  model : String
  maxTokens : UInt32
  temperature : Decimal.Binary
  deriving DecidableEq, Repr

structure Settings where
  maxRepairAttempts : UInt64
  timeoutSeconds : UInt64
  anthropic : ModelSettings
  openai : ModelSettings
  /-- A library of at least this many functions is fetched on its own. -/
  largeLibraryThreshold : UInt64
  deriving DecidableEq, Repr

namespace Settings

def defaultAnthropic : ModelSettings :=
  ⟨"https://api.anthropic.com", "claude-sonnet-4-20250514", 16384, Decimal.single.zero false⟩

def defaultOpenai : ModelSettings :=
  ⟨"https://api.openai.com", "gpt-4", 16384, Decimal.single.zero false⟩

/-- The time to wait for an answer, in seconds, if nothing else is set. -/
def defaultTimeoutSeconds : UInt64 := 120

def default : Settings := ⟨2, defaultTimeoutSeconds, defaultAnthropic, defaultOpenai, 100⟩

/-- The time to wait for an answer, in milliseconds. -/
def timeoutMillis (s : Settings) : Nat := s.timeoutSeconds.toNat * 1000

/-- Refuses settings with which nothing could be done. -/
def validate (s : Settings) : Result Unit :=
  if s.timeoutSeconds = 0 then .error (.configuration .zeroTimeout)
  else if s.anthropic.maxTokens = 0 ∨ s.openai.maxTokens = 0 then
    .error (.configuration .zeroTokens)
  else if s.largeLibraryThreshold = 0 then .error (.configuration .zeroThreshold)
  else .ok ()

/-! ## Reading -/

/-- How the values of a data format are taken apart. A record gives one value for each of the names,
or none where it leaves the field out. -/
structure Format (δ : Type) where
  record : List String → δ → Option (List (Option δ))
  text : δ → Option String
  /-- A whole number below a bound. -/
  below : Nat → δ → Option Nat
  /-- A number in the 32-bit format. -/
  single : δ → Option Decimal.Binary

variable {δ : Type}

/-- A field, or its default where it is left out. -/
def orElse (default : α) (read : δ → Option α) : Option δ → Option α
  | none => some default
  | some value => read value

/-- A record of one word of 64 bits. -/
def readWord (format : Format δ) (name : String) (default : UInt64) (value : δ) :
    Option UInt64 := do
  let [word] ← format.record [name] value | none
  orElse default (fun v => (format.below (Nat.pow 2 64) v).map UInt64.ofNat) word

def readModel (format : Format δ) (default : ModelSettings) (value : δ) : Option ModelSettings := do
  let [endpoint, model, maxTokens, temperature] ←
    format.record ["endpoint", "model", "max_tokens", "temperature"] value | none
  some ⟨← orElse default.endpoint format.text endpoint, ← orElse default.model format.text model,
    ← orElse default.maxTokens (fun v => (format.below (Nat.pow 2 32) v).map UInt32.ofNat) maxTokens,
    ← orElse default.temperature format.single temperature⟩

def read (format : Format δ) (value : δ) : Option Settings := do
  let [generation, network, anthropic, openai, libraries] ←
    format.record ["generation", "network", "anthropic", "openai", "libraries"] value | none
  some ⟨
    ← orElse default.maxRepairAttempts
      (readWord format "max_repair_attempts" default.maxRepairAttempts) generation,
    ← orElse default.timeoutSeconds
      (readWord format "timeout_secs" default.timeoutSeconds) network,
    ← orElse defaultAnthropic (readModel format defaultAnthropic) anthropic,
    ← orElse defaultOpenai (readModel format defaultOpenai) openai,
    ← orElse default.largeLibraryThreshold
      (readWord format "large_library_threshold" default.largeLibraryThreshold) libraries⟩

/-- JSON documents with the number of containers that may still be opened. -/
def jsonFormat : Format (Nat × Json.Document) where
  record names value :=
    (value.2.slots? names value.1).map fun slots => slots.map fun
      | .given depth document => some (depth, document)
      | _ => none
  text value := Json.Decoder.text value.1 value.2
  below bound value := Json.Decoder.below bound value.1 value.2
  single value := Json.Decoder.single value.1 value.2

/-- TOML values. A record may be an array, of which further items are ignored; a date counts as a
table without any known field. -/
def tomlFormat : Format Toml where
  record names
    | .table fields => some (names.map fun name => fields.lookup name)
    | .array items => some ((List.range names.length).map fun i => items[i]?)
    | .dateTime => some (names.map fun _ => none)
    | _ => none
  text
    | .string s => some s
    | _ => none
  below bound
    | .integer (.ofNat n) => if n < bound then some n else none
    | _ => none
  single
    | .integer n => some (Decimal.single.ofInt n)
    | .float x => some (x.convert Decimal.single)
    | _ => none

def decode : Json.Decoder Settings := fun depth document => read jsonFormat (depth, document)

def ofJson? (text : String) : Option Settings := Json.decode? decode text

def ofToml? (text : String) : Option Settings := do read tomlFormat (← Toml.parse? text)

/-! ## Writing -/

def modelJson (m : ModelSettings) : Json :=
  .object [("endpoint", .string m.endpoint), ("model", .string m.model),
    ("max_tokens", .ofNat m.maxTokens.toNat), ("temperature", .number (.single m.temperature))]

def toJson (s : Settings) : Json :=
  .object [("generation", .object [("max_repair_attempts", .ofNat s.maxRepairAttempts.toNat)]),
    ("network", .object [("timeout_secs", .ofNat s.timeoutSeconds.toNat)]),
    ("anthropic", modelJson s.anthropic), ("openai", modelJson s.openai),
    ("libraries", .object [("large_library_threshold", .ofNat s.largeLibraryThreshold.toNat)])]

instance : Json.Codec Settings := ⟨toJson, decode⟩

def modelFields (m : ModelSettings) : List (String × Toml) :=
  [("endpoint", .string m.endpoint), ("model", .string m.model),
    ("max_tokens", .integer m.maxTokens.toNat),
    ("temperature", .float (m.temperature.convert Decimal.double))]

/-- The sections of a TOML file. -/
def sections (s : Settings) : List (String × List (String × Toml)) :=
  [("generation", [("max_repair_attempts", .integer s.maxRepairAttempts.toNat)]),
    ("network", [("timeout_secs", .integer s.timeoutSeconds.toNat)]),
    ("anthropic", modelFields s.anthropic), ("openai", modelFields s.openai),
    ("libraries", [("large_library_threshold", .integer s.largeLibraryThreshold.toNat)])]

/-- The TOML text; a word that is no TOML integer cannot be written. -/
def toToml (s : Settings) : Result String :=
  match Toml.render? s.sections with
  | some text => .ok text
  | none => .error (.tomlWrite "out-of-range value for u64 type")

/-! ## Files -/

inductive FileKind where
  | toml
  | json
  deriving DecidableEq, Repr

/-- The kind of a file by its extension. -/
def fileKind (path : String) : Result FileKind :=
  match Path.extension? path with
  | some "toml" => .ok .toml
  | some "json" => .ok .json
  | _ => .error (.configuration .unsupportedFormat)

/-- The settings in a text of either kind. -/
def ofText (kind : FileKind) (text : String) : Result Settings :=
  match kind with
  | .toml =>
    match ofToml? text with
    | some s => .ok s
    | none => .error (.configuration .invalidToml)
  | .json =>
    match ofJson? text with
    | some s => .ok s
    | none => .error (.configuration .invalidJson)

/-- Reads and checks a file. That it can be read comes before its kind. -/
def load (disk : Disk) (path : String) : Result Settings := do
  let text ← (disk.readText path).mapError fun fault => .configuration (.unreadable fault)
  let settings ← ofText (← fileKind path) text
  settings.validate
  .ok settings

/-- The text to be saved under a path. -/
def fileText (s : Settings) (path : String) : Result String := do
  match ← fileKind path with
  | .toml => s.toToml
  | .json => .ok s.toJson.renderPretty

/-- Writes a file, making the directories it lies in. -/
def save (s : Settings) (disk : Disk) (path : String) : Result Unit × Disk :=
  match s.fileText path with
  | .error failure => (.error failure, disk)
  | .ok text =>
    match disk.makeDirectories (Path.parent path) with
    | (.error fault, disk) => (.error (.io fault), disk)
    | (.ok (), disk) =>
      match disk.writeText path text with
      | (.error fault, disk) => (.error (.configuration (.unwritable fault)), disk)
      | (.ok (), disk) => (.ok (), disk)

/-- Where the settings of a user are, below the home directory. -/
def userPath (home : String) : String := Path.join (Path.join home ".np-codegen") "config.toml"

end Settings

end GuidedSynthesis
