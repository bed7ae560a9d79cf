import GuidedSynthesis.Outcome
import GuidedSynthesis.Prompt
/-!
What a model service is given when it is asked for a repair.
-/

namespace GuidedSynthesis

/-- What is to be repaired: a function of a name, of which only the body may change, or a constant
expression. -/
inductive RepairKind where
  | function (name : String)
  | constantExpression
  deriving DecidableEq, Repr

/-- The code that did not pass, with what it was generated from and what was found. -/
structure RepairContext where
  kind : RepairKind
  useCase : String
  /-- The sources at the time of the validation. -/
  sources : SourceSet
  generated : GeneratedCode
  diagnostics : List Diagnostic
  deriving Repr

namespace RepairContext

/-- The instruction to a service that holds a conversation. -/
def instruction (c : RepairContext) : String :=
  match c.kind with
  | .function name => Prompt.functionRepair name c.diagnostics
  | .constantExpression => Prompt.expressionRepair c.diagnostics

end RepairContext

end GuidedSynthesis
