import GuidedSynthesis.Semantics
/-!
What keeps an expression from being constant.

Every kind of expression is accepted, judged by its parts, or rejected, and what is not listed is
rejected. The check goes through an expression from left to right and keeps a report: the diagnostics
so far, and the source texts that they are about. An expression whose text was reported before is
passed over, so that offenders with one text are reported once, where that text first occurs.
-/

namespace GuidedSynthesis

/-- Tells whether a reference at a range names a constant. -/
abbrev ConstantTest := Range → NameReference → Bool

namespace Constancy

/-- Does the model resolve the reference to a constant? -/
def namesConstant (model : SemanticModel) (document : String) : ConstantTest :=
  fun range reference => (model.resolve document reference range).any Symbol.isConstant

/-- An expression that is not constant, as a diagnostic. -/
def toDiagnostic (document : String) (e : Expr) : Diagnostic :=
  .errorAt document e.range
    ("Generated code should only contains constant expressions. (found: '" ++ e.source ++ "')")

/-- What has been found: the diagnostics, and the source texts that they are about. -/
structure Report where
  diagnostics : List Diagnostic
  reported : List String

namespace Report

def empty : Report := ⟨[], []⟩

/-- Takes in a rejected expression, unless its text was reported before. -/
def reject (document : String) (report : Report) (e : Expr) : Report :=
  if e.source ∈ report.reported then report
  else ⟨report.diagnostics ++ [toDiagnostic document e], e.source :: report.reported⟩

end Report

end Constancy

mutual

/-- Checks an expression by its kind, and goes on with the report. -/
def Expr.check (test : ConstantTest) (document : String) :
    Expr → Constancy.Report → Constancy.Report
  | .mk kind source range, report =>
    match kind with
    | .literal _ | .nil | .builtinType _ | .singletonType _ => report
    | .nameRef reference =>
      if test range reference then report
      else report.reject document (.mk (.nameRef reference) source range)
    | .template t interpolations =>
      if interpolations.isEmpty then report
      else report.reject document (.mk (.template t interpolations) source range)
    | .binary _ left right => right.check test document (left.check test document report)
    | .conditional condition whenTrue whenFalse =>
      whenFalse.check test document
        (whenTrue.check test document (condition.check test document report))
    | .braced inner => inner.check test document report
    | .unary _ inner => inner.check test document report
    | .typeCast _ inner => inner.check test document report
    | .typeTest inner _ => inner.check test document report
    | .typeof inner => inner.check test document report
    | .fieldAccess inner _ => inner.check test document report
    | .optionalFieldAccess inner _ => inner.check test document report
    | .indexed container keys =>
      Expr.checkAll test document keys (container.check test document report)
    | .listConstructor items => Expr.checkAll test document items report
    | .tableConstructor items => Expr.checkAll test document items report
    | .mappingConstructor fields => MappingField.checkAll test document fields report
    | other => report.reject document (.mk other source range)

def Expr.checkAll (test : ConstantTest) (document : String) :
    List Expr → Constancy.Report → Constancy.Report
  | [], report => report
  | e :: more, report => Expr.checkAll test document more (e.check test document report)

/-- Checks the key of a field, if it is computed, and its value. -/
def MappingField.check (test : ConstantTest) (document : String) :
    MappingField → Constancy.Report → Constancy.Report
  | .keyValue _ value, report => value.check test document report
  | .computed key value, report => value.check test document (key.check test document report)
  | .shorthand name, report => name.check test document report
  | .spread operand, report => operand.check test document report

def MappingField.checkAll (test : ConstantTest) (document : String) :
    List MappingField → Constancy.Report → Constancy.Report
  | [], report => report
  | field :: more, report =>
    MappingField.checkAll test document more (field.check test document report)

end

namespace Constancy

/-- The diagnostics of a generated expression. -/
def vet (model : SemanticModel) (document : String) (e : Expr) : List Diagnostic :=
  (e.check (namesConstant model document) document .empty).diagnostics

def inspect (document : String) : Inspection :=
  .record "ConstExpressionValidator" [("document", .quoted document)] true

end Constancy

end GuidedSynthesis
