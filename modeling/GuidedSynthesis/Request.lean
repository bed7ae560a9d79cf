import GuidedSynthesis.Failure
import GuidedSynthesis.Sources
import GuidedSynthesis.Text.Blank
/-!
A request for one declaration, and the names that follow from it: the document that holds the
generated declaration, its file in the throw-away project, and the artifact kept in the real one.
-/

namespace GuidedSynthesis

/-- What the model service is asked to write. -/
inductive TargetKind where
  | function
  | constantExpression
  deriving DecidableEq, Repr

namespace TargetKind

def name : TargetKind → String
  | function => "function"
  | constantExpression => "constant_expression"

def toJson (k : TargetKind) : Json := .string k.name

def decode : Json.Decoder TargetKind :=
  .constant [(function.name, function), (constantExpression.name, constantExpression)]

instance : Json.Codec TargetKind := ⟨toJson, decode⟩

end TargetKind

/-- The module under compilation. -/
structure ModuleDescriptor where
  organization : String
  name : String
  version : String
  deriving DecidableEq, Repr

namespace ModuleDescriptor

/-- `organization/name:version`. -/
def text (m : ModuleDescriptor) : String := m.organization ++ "/" ++ m.name ++ ":" ++ m.version

def toJson (m : ModuleDescriptor) : Json :=
  .object [("org", .string m.organization), ("name", .string m.name),
    ("version", .string m.version)]

def decode : Json.Decoder ModuleDescriptor := fun depth document => do
  let [organization, name, version] ← document.slots? ["org", "name", "version"] depth | none
  some ⟨← organization.required .text, ← name.required .text, ← version.required .text⟩

instance : Json.Codec ModuleDescriptor := ⟨toJson, decode⟩

end ModuleDescriptor

/-! ## Identifiers -/

/-- An ASCII letter or an underscore. -/
def isIdentifierStart (c : Char) : Bool := c.isAlpha || c = '_'

def isIdentifierPart (c : Char) : Bool := isIdentifierStart c || c.isDigit

/-- An identifier that is not quoted. -/
def isPlainIdentifier : List Char → Bool
  | [] => false
  | c :: rest => isIdentifierStart c && rest.all isIdentifierPart

/-- An identifier, possibly quoted by an apostrophe before it. -/
def isIdentifier (name : String) : Bool :=
  match name.toList with
  | [] => false
  | c :: rest => if c.toNat = 0x27 then isPlainIdentifier rest else isPlainIdentifier (c :: rest)

/-! ## Requests -/

/-- The directory of generated sources, relative to the root of a project. -/
def generatedDirectory : String := "generated"

/-- The path of the artifact kept for a declaration. -/
def artifactPath (symbol : String) : String :=
  generatedDirectory ++ "/" ++ symbol ++ "_np_generated.bal"

/-- All that is needed to generate one declaration. -/
structure GenerationRequest where
  /-- The annotated declaration. -/
  annotatedSymbol : String
  /-- The name that the generated declaration carries. -/
  generatedSymbol : String
  prompt : String
  /-- The sources of the user's project. -/
  contextFiles : SourceSet
  targetModule : ModuleDescriptor
  deriving DecidableEq, Repr

namespace GenerationRequest

/-- Both names are identifiers and the prompt is not blank. -/
def validate (r : GenerationRequest) : Result Unit :=
  if !isIdentifier r.annotatedSymbol then
    .error (.internal (.invalidIdentifier r.annotatedSymbol))
  else if !isIdentifier r.generatedSymbol then
    .error (.internal (.invalidIdentifier r.generatedSymbol))
  else if Text.isBlankText r.prompt then .error (.internal (.emptyPrompt r.annotatedSymbol))
  else .ok ()

/-- The document that holds the generated declaration. -/
def documentName (r : GenerationRequest) : String := "functions_" ++ r.generatedSymbol ++ ".bal"

/-- The file of the generated declaration in the throw-away project. -/
def generatedPath (r : GenerationRequest) : String := generatedDirectory ++ "/" ++ r.documentName

/-- The artifact of the annotated declaration in the real project. -/
def artifactPath (r : GenerationRequest) : String := GuidedSynthesis.artifactPath r.annotatedSymbol

/-- The context files without what was generated for this declaration before. -/
def promptContext (r : GenerationRequest) : SourceSet := r.contextFiles.without r.artifactPath

def toJson (r : GenerationRequest) : Json :=
  .object [("originalSymbolName", .string r.annotatedSymbol),
    ("generatedSymbolName", .string r.generatedSymbol),
    ("naturalLanguagePrompt", .string r.prompt),
    ("contextSourceFiles", r.contextFiles.toJson),
    ("targetModule", r.targetModule.toJson)]

def decode : Json.Decoder GenerationRequest := fun depth document => do
  let [annotated, generated, prompt, files, target] ← document.slots?
    ["originalSymbolName", "generatedSymbolName", "naturalLanguagePrompt", "contextSourceFiles",
      "targetModule"] depth | none
  some ⟨← annotated.required .text, ← generated.required .text, ← prompt.required .text,
    ← files.required SourceSet.decode, ← target.required ModuleDescriptor.decode⟩

instance : Json.Codec GenerationRequest := ⟨toJson, decode⟩

end GenerationRequest

end GuidedSynthesis
