import GuidedSynthesis.Service.CodeStream
import GuidedSynthesis.Service.Completions
import GuidedSynthesis.Service.Messages
/-!
Model services.

A service is asked in two ways, for code and for a repair of code, and each way is a request and a
reading of the answer's text. What a service answers depends on the reply alone: `generated` and
`repairText` say how, and `generate` and `requestRepair` only add the sending.

A generation has to give a block of code. A repair may give none; then the code stays as it is.
-/

namespace GuidedSynthesis

/-- How a service is talked to. -/
inductive Backend where
  | anthropic (settings : ModelSettings)
  | azureOpenai (deployment : Deployment) (settings : ModelSettings)
  | openai (settings : ModelSettings)
  | copilot (baseUrl : String)
  deriving DecidableEq, Repr

def Backend.kind : Backend → ServiceKind
  | anthropic _ => .anthropic
  | azureOpenai .. => .azureOpenai
  | openai _ => .openai
  | copilot _ => .copilot

structure Service where
  backend : Backend
  token : String
  timeoutMillis : Nat
  prompts : Prompts
  deriving DecidableEq, Repr

namespace Service

def kind (s : Service) : ServiceKind := s.backend.kind

/-- The name by which the service is reported. -/
def name (s : Service) : String := s.kind.name

/-! ## Requests -/

/-- The request for code. -/
def generationPost (s : Service) (useCase : String) (sources : SourceSet) : Post :=
  match s.backend with
  | .anthropic settings =>
    Messages.post settings s.token s.prompts (Messages.generation useCase sources)
  | .azureOpenai deployment settings =>
    Completions.postTo deployment settings s.token
      (Completions.generation s.prompts useCase sources)
  | .openai settings =>
    Completions.post settings s.token (Completions.generation s.prompts useCase sources)
  | .copilot baseUrl => CodeStream.generation baseUrl s.token useCase sources

/-- The request for a repair. -/
def repairPost (s : Service) (c : RepairContext) : Post :=
  match s.backend with
  | .anthropic settings => Messages.post settings s.token s.prompts (Messages.repair c)
  | .azureOpenai deployment settings =>
    Completions.postTo deployment settings s.token (Completions.repair s.prompts c)
  | .openai settings => Completions.post settings s.token (Completions.repair s.prompts c)
  | .copilot baseUrl => CodeStream.repair baseUrl s.token c

/-! ## Answers -/

/-- The text that answers a generation, and the helper functions that came along. -/
def generationText (s : Service) (body : String) : Result Answer.Stream :=
  let plain (text : Except AnswerFault String) : Result Answer.Stream :=
    match text with
    | .ok text => .ok ⟨text, none⟩
    | .error fault => .error (.answer s.name fault)
  match s.backend with
  | .anthropic _ => plain (Messages.answerText body)
  | .azureOpenai .. | .openai _ => plain (Completions.answerText body)
  | .copilot _ => Answer.stream s.name body

/-- The text that answers a repair. -/
def repairText (s : Service) (body : String) : Result String :=
  (match s.backend with
    | .anthropic _ => Messages.answerText body
    | .azureOpenai .. | .openai _ => Completions.answerText body
    | .copilot _ => CodeStream.repairText body).mapError (.answer s.name)

/-- The code in the body of an answer. -/
def generated (s : Service) (body : String) : Result GeneratedCode := do
  let answer ← s.generationText body
  let code ← Answer.requireCode s.name answer.text
  .ok ⟨code, answer.functions⟩

/-! ## Exchanges -/

/-- Asks for code. -/
def generate (s : Service) (network : Network) (sent : List Sent) (useCase : String)
    (sources : SourceSet) : Result GeneratedCode × List Sent :=
  let (content, sent) :=
    (s.generationPost useCase sources).exchange s.name s.timeoutMillis network sent
  (content.bind s.generated, sent)

/-- Asks for a repair; the whole text of the answer. -/
def requestRepair (s : Service) (network : Network) (sent : List Sent) (c : RepairContext) :
    Result String × List Sent :=
  let (content, sent) := (s.repairPost c).exchange s.name s.timeoutMillis network sent
  (content.bind s.repairText, sent)

/-- Asks for a repair; the block of code in the answer, if there is one. -/
def repair (s : Service) (network : Network) (sent : List Sent) (c : RepairContext) :
    Result (Option String) × List Sent :=
  let (answer, sent) := s.requestRepair network sent c
  (answer.map Answer.code?, sent)

end Service

end GuidedSynthesis
