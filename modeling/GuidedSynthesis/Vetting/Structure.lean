import GuidedSynthesis.Semantics
import GuidedSynthesis.Syntax.Walk
/-!
What a generated declaration may not contain.

A generated module holds functions only, imports only from its own package's organization and from
those of the platform, and refers to no variable that is set from outside or declared at module
level. `Structure.findings` lists what breaks these rules: members, then imports, then references in
the order of the walk, each occurrence for itself.
-/

namespace GuidedSynthesis

namespace Structure

/-- Whose code is vetted, and what is known about it. -/
structure Scope where
  model : SemanticModel
  document : String
  /-- The organization of the package that the code becomes part of. -/
  organization : String

inductive Finding where
  | member (member : Member)
  | importing (declaration : Import)
  | configurable (expr : Expr) (reference : NameReference)
  | moduleLevel (expr : Expr) (reference : NameReference)

/-- Organizations from which every package may import. -/
def platformOrganizations : List String := ["ballerina", "ballerinax"]

/-- An import without an organization stays inside the package. -/
def isAllowedImport (organization : String) (declaration : Import) : Bool :=
  match declaration.organization with
  | none => true
  | some origin => origin = organization || platformOrganizations.contains origin

def memberFinding? (member : Member) : Option Finding :=
  if member.kind = .functionDefinition then none else some (.member member)

def importFinding? (organization : String) (declaration : Import) : Option Finding :=
  if isAllowedImport organization declaration then none else some (.importing declaration)

/-- A configurable variable is reported as such, even if it is declared at module level. -/
def referenceFinding? (scope : Scope) (expr : Expr) (reference : NameReference) : Option Finding :=
  match scope.model.resolve scope.document reference expr.range with
  | none => none
  | some symbol =>
    if !symbol.isVariable then none
    else if symbol.isConfigurable then some (.configurable expr reference)
    else if scope.model.moduleSymbols.contains symbol then some (.moduleLevel expr reference)
    else none

def findings (scope : Scope) (module : ModulePart) : List Finding :=
  module.members.filterMap memberFinding? ++
    (module.imports.filterMap (importFinding? scope.organization) ++
      (references module.walk).filterMap fun (expr, reference) =>
        referenceFinding? scope expr reference)

namespace Finding

def range : Finding → Range
  | member m => m.range
  | importing i => i.range
  | configurable e _ => e.range
  | moduleLevel e _ => e.range

/-- The finding as a diagnostic. That of a member is located, but does not name its place. -/
def toDiagnostic (document : String) : Finding → Diagnostic
  | member m =>
    ⟨"Error: Invalid code structure detected. Only function definitions are permitted " ++
      "in the generated code. Found disallowed element: " ++ m.kind.text,
      some ⟨document, m.range⟩⟩
  | importing i =>
    .errorAt document i.range
      ("Disallowed import '" ++ i.source ++
        "' detected in location, only 'ballerina/' or 'ballerinax/' packages are permitted")
  | configurable e r =>
    .errorAt document e.range
      ("Config variables cannot be used inside the generated code. (found: '" ++ r.text ++ "')")
  | moduleLevel e r =>
    .errorAt document e.range
      ("Module level variables cannot be used inside the generated code. (found: '" ++ r.text ++
        "')")

end Finding

/-- The diagnostics of a generated module. -/
def vet (scope : Scope) (module : ModulePart) : List Diagnostic :=
  (findings scope module).map (Finding.toDiagnostic scope.document)

/-- A vetting that has found nothing yet. -/
def Scope.inspect (scope : Scope) : Inspection :=
  .record "StructuralValidator"
    [("document", .quoted scope.document), ("package_org", .quoted scope.organization),
      ("diagnostics", .number 0)] false

end Structure

end GuidedSynthesis
