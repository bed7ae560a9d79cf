import GuidedSynthesis.Distinct
import GuidedSynthesis.Syntax.Position
/-!
Findings about generated code.

A `HostDiagnostic` is what the host compiler reports. A `Diagnostic` is what the model service is
shown: its message is the whole text, place included. Diagnostics are told apart by that text alone,
so `Diagnostic.dedup` keeps the first of those that read the same.
-/

namespace GuidedSynthesis

inductive Severity where
  | error
  | warning
  | hint
  | info
  deriving DecidableEq, Repr

namespace Severity

def text : Severity → String
  | error => "ERROR"
  | warning => "WARNING"
  | hint => "HINT"
  | info => "INFO"

def inspect : Severity → Inspection
  | error => .word "Error"
  | warning => .word "Warning"
  | hint => .word "Hint"
  | info => .word "Info"

def toJson (s : Severity) : Json := .string s.text

def decode : Json.Decoder Severity :=
  .constant [("ERROR", error), ("WARNING", warning), ("HINT", hint), ("INFO", info)]

instance : Json.Codec Severity := ⟨toJson, decode⟩

end Severity

/-- A finding of the host compiler. -/
structure HostDiagnostic where
  severity : Severity
  message : String
  document : Option String
  range : Option Range
  deriving DecidableEq, Repr

namespace HostDiagnostic

def isError (d : HostDiagnostic) : Bool := d.severity = .error

/-- `ERROR [main.bal:(3:4,3:10)] undefined symbol`; the place is left out unless both document and
range are known. -/
def text (d : HostDiagnostic) : String :=
  match d.document, d.range with
  | some document, some range =>
    d.severity.text ++ " [" ++ document ++ ":" ++ range.text ++ "] " ++ d.message
  | _, _ => d.severity.text ++ " " ++ d.message

def inspect (d : HostDiagnostic) : Inspection :=
  .record "CompilerDiagnostic"
    [("severity", d.severity.inspect), ("message", .quoted d.message),
      ("document", .option .quoted d.document), ("range", .option Range.inspect d.range)] false

def toJson (d : HostDiagnostic) : Json :=
  .object [("severity", d.severity.toJson), ("message", .string d.message),
    ("document", .ofOption .string d.document), ("range", .ofOption Range.toJson d.range)]

def decode : Json.Decoder HostDiagnostic := fun depth doc => do
  let [severity, message, document, range] ←
    doc.slots? ["severity", "message", "document", "range"] depth | none
  some ⟨← severity.required Severity.decode, ← message.required .text, ← document.optional .text,
    ← range.optional Range.decode⟩

instance : Json.Codec HostDiagnostic := ⟨toJson, decode⟩

end HostDiagnostic

/-- A range of a document. -/
structure SourceLocation where
  document : String
  range : Range
  deriving DecidableEq, Repr

namespace SourceLocation

def text (l : SourceLocation) : String := l.document ++ ":" ++ l.range.text

def toJson (l : SourceLocation) : Json :=
  .object [("document", .string l.document), ("range", l.range.toJson)]

def decode : Json.Decoder SourceLocation := fun depth doc => do
  let [document, range] ← doc.slots? ["document", "range"] depth | none
  some ⟨← document.required .text, ← range.required Range.decode⟩

instance : Json.Codec SourceLocation := ⟨toJson, decode⟩

end SourceLocation

/-- A finding as the model service is shown it. -/
structure Diagnostic where
  message : String
  location : Option SourceLocation
  deriving DecidableEq, Repr

namespace Diagnostic

/-- An error at a place: `ERROR [document:(1:2,3:4)] message`. -/
def errorAt (document : String) (range : Range) (message : String) : Diagnostic :=
  ⟨"ERROR [" ++ document ++ ":" ++ range.text ++ "] " ++ message, some ⟨document, range⟩⟩

def unlocated (message : String) : Diagnostic := ⟨message, none⟩

def ofHost (d : HostDiagnostic) : Diagnostic :=
  ⟨d.text, match d.document, d.range with
    | some document, some range => some ⟨document, range⟩
    | _, _ => none⟩

def toJson (d : Diagnostic) : Json :=
  .object [("message", .string d.message), ("location", .ofOption SourceLocation.toJson d.location)]

def decode : Json.Decoder Diagnostic := fun depth doc => do
  let [message, location] ← doc.slots? ["message", "location"] depth | none
  some ⟨← message.required .text, ← location.optional SourceLocation.decode⟩

instance : Json.Codec Diagnostic := ⟨toJson, decode⟩

/-- The first diagnostic of each message. -/
def dedup (ds : List Diagnostic) : List Diagnostic := firstsBy Diagnostic.message ds

/-- The compiler's findings, then the validator's, each message once. -/
def merge (host validator : List Diagnostic) : List Diagnostic := dedup (host ++ validator)

theorem mem_dedup_iff {ds : List Diagnostic} {d : Diagnostic} :
    d ∈ dedup ds ↔ ds.find? (·.message = d.message) = some d := mem_firstsBy_iff

/-- What the host says comes first, and takes the place of what reads the same. -/
theorem mem_merge_iff {host validator : List Diagnostic} {d : Diagnostic} :
    d ∈ merge host validator ↔
      d ∈ dedup host ∨ d ∈ dedup validator ∧ ∀ h ∈ host, h.message ≠ d.message := by
  rw [merge, dedup, firstsBy_append, List.mem_append, List.mem_filter]
  simp [dedup]

/-- The messages, each on a line of its own. -/
def listing (ds : List Diagnostic) : String := String.join (ds.map fun d => d.message ++ "\n")

end Diagnostic

end GuidedSynthesis
