import GuidedSynthesis.Diagnostic
import GuidedSynthesis.Syntax.Tree
/-!
What the host compiler knows about a program: its symbols, its types and its findings.
-/

namespace GuidedSynthesis

inductive SymbolKind where
  | variable
  | constant
  | parameter
  | function
  | type
  | classType
  | module
  | annotationTag
  deriving DecidableEq, Repr

inductive Qualifier where
  | configurable
  | final
  | isolated
  | publicAccess
  | readonly
  deriving DecidableEq, Repr

/-- A declared symbol; a constant may come with the text of its value. -/
structure Symbol where
  name : String
  kind : SymbolKind
  qualifiers : List Qualifier
  constantValue : Option String
  deriving DecidableEq, Repr

namespace Symbol

/-- A variable or a parameter. -/
def isVariable (s : Symbol) : Bool := s.kind = .variable || s.kind = .parameter

def isConstant (s : Symbol) : Bool := s.kind = .constant

/-- A variable or parameter that is set from outside the program. -/
def isConfigurable (s : Symbol) : Bool := s.isVariable && s.qualifiers.contains .configurable

end Symbol

/-- A type as the compiler prints it. -/
structure TypeDescriptor where
  signature : String
  deriving DecidableEq, Repr

namespace TypeDescriptor

def toJson (t : TypeDescriptor) : Json := .object [("signature", .string t.signature)]

def decode : Json.Decoder TypeDescriptor := fun depth document => do
  let [signature] ← document.slots? ["signature"] depth | none
  some ⟨← signature.required .text⟩

instance : Json.Codec TypeDescriptor := ⟨toJson, decode⟩

end TypeDescriptor

/-- What the compiler answers about one compiled module. -/
structure SemanticModel where
  /-- The symbol that a reference at a range of a document names. -/
  resolve : String → NameReference → Range → Option Symbol
  /-- The symbols declared at module level. -/
  moduleSymbols : List Symbol
  /-- The type that the context expects of an expression. -/
  expectedType : Expr → Option TypeDescriptor
  /-- The type of an expression. -/
  typeOf : Expr → Option TypeDescriptor

namespace SemanticModel

/-- A model that knows nothing. -/
def empty : SemanticModel := ⟨fun _ _ _ => none, [], fun _ => none, fun _ => none⟩

end SemanticModel

/-- A syntax tree with the findings made while reading it. -/
structure Parsed (α : Type) where
  node : α
  diagnostics : List HostDiagnostic

/-- The result of compiling a project. -/
structure Compilation where
  diagnostics : List HostDiagnostic
  model : SemanticModel

namespace Compilation

/-- The findings that are errors, in the order of report. -/
def errors (c : Compilation) : List HostDiagnostic := c.diagnostics.filter HostDiagnostic.isError

def inspect (c : Compilation) : Inspection :=
  .record "Compilation" [("diagnostics", .list (c.diagnostics.map HostDiagnostic.inspect))] true

end Compilation

end GuidedSynthesis
