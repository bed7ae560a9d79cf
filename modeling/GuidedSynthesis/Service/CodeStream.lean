import GuidedSynthesis.Answer
import GuidedSynthesis.Service.Exchange
import GuidedSynthesis.Service.Repair
/-!
The code service: it is given the use case and the sources and makes its own prompts.

A generation is answered by a stream of events, which may also describe helper functions; a repair
is told of these functions again and answered by one JSON object.
-/

namespace GuidedSynthesis.CodeStream

def endpoint (baseUrl path : String) : String := withoutTrailingSlashes baseUrl ++ path

/-- The request for a generation. -/
def generation (baseUrl token useCase : String) (sources : SourceSet) : Post :=
  { url := endpoint baseUrl "/code"
    headers := [Post.bearer token, Post.contentType]
    body := .object [("usecase", .string useCase), ("sourceFiles", sources.toJson)] }

/-- The task of a repair. -/
def task : RepairKind → String
  | .function name =>
    "Fix issues in the generated '" ++ name ++
      "' function. Do not change anything other than the function body"
  | .constantExpression => Prompt.expressionRepairTask

/-- The request for a repair. -/
def repair (baseUrl token : String) (c : RepairContext) : Post :=
  { url := endpoint baseUrl "/code/repair"
    headers := [Post.bearer token, Post.contentType]
    body := .object [("usecase", .string (task c.kind)), ("sourceFiles", c.sources.toJson),
      ("chatHistory", .array [.object [("actor", .string "user"), ("message", .string c.useCase)]]),
      ("functions", .ofOption id c.generated.auxiliaryFunctions),
      ("diagnosticRequest", .object [
        ("diagnostics",
          .array (c.diagnostics.map fun d => .object [("message", .string d.message)])),
        ("response", .string c.generated.code)])] }

/-! ## Answers -/

def repairDecoder : Json.Decoder (Option String) := fun depth document => do
  let [response] ← document.slots? ["repairResponse"] depth | none
  response.optional .text

/-- The text of the answer to a repair. -/
def repairText (body : String) : Except AnswerFault String :=
  match Json.decode? repairDecoder body with
  | none => .error (.undecodableRepair body)
  | some none => .error .missingRepair
  | some (some text) => .ok text

end GuidedSynthesis.CodeStream
