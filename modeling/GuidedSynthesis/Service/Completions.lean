import GuidedSynthesis.Chat
import GuidedSynthesis.Service.Exchange
import GuidedSynthesis.Service.Repair
import GuidedSynthesis.Settings
/-!
The chat completions protocol: one list of messages, the instructions first.

The service itself and a deployment of it are asked with the same body and answer alike; they differ
in the place and in the header that carries the token.
-/

namespace GuidedSynthesis

/-- A deployment of a model in a resource of its own. -/
structure Deployment where
  serviceUrl : String
  deploymentId : String
  apiVersion : String
  deriving DecidableEq, Repr

/-- Where a deployment takes chat completions. -/
def Deployment.completionsUrl (d : Deployment) : String :=
  withoutTrailingSlashes d.serviceUrl ++ "/openai/deployments/" ++ d.deploymentId ++
    "/chat/completions?api-version=" ++ d.apiVersion

namespace Completions

/-- The instructions as one message. -/
def instructions (prompts : Prompts) : ChatMessage :=
  ⟨.system, Prompt.systemOpening ++ "\n" ++ Prompt.systemInstructions prompts⟩

/-- The messages of a first request. -/
def generation (prompts : Prompts) (useCase : String) (sources : SourceSet) : List ChatMessage :=
  [instructions prompts, ⟨.user, Prompt.query useCase sources⟩]

/-- The messages of a repair: those of the request, the code that it gave, and what is wrong with
it. -/
def repair (prompts : Prompts) (c : RepairContext) : List ChatMessage :=
  generation prompts c.useCase c.sources ++
    [⟨.assistant, c.generated.code⟩, ⟨.user, c.instruction⟩]

def body (settings : ModelSettings) (messages : List ChatMessage) : Json :=
  .object [("model", .string settings.model), ("max_tokens", .ofNat settings.maxTokens.toNat),
    ("temperature", .number (.single settings.temperature)),
    ("messages", .array (messages.map ChatMessage.toJson))]

/-- To the service itself. -/
def post (settings : ModelSettings) (token : String) (messages : List ChatMessage) : Post :=
  { url := withoutTrailingSlashes settings.endpoint ++ "/v1/chat/completions"
    headers := [Post.bearer token, Post.contentType]
    body := body settings messages }

/-- To a deployment. -/
def postTo (deployment : Deployment) (settings : ModelSettings) (token : String)
    (messages : List ChatMessage) : Post :=
  { url := deployment.completionsUrl
    headers := [("api-key", token), Post.contentType]
    body := body settings messages }

/-! ## Answers -/

/-- The content of a message, if it has any. -/
def messageDecoder : Json.Decoder (Option String) := fun depth document => do
  let [content] ← document.slots? ["content"] depth | none
  content.optional .text

/-- The content of a choice, if it has a message that has any. -/
def choiceDecoder : Json.Decoder (Option String) := fun depth document => do
  let [message] ← document.slots? ["message"] depth | none
  (message.optional messageDecoder).map Option.join

def answerDecoder : Json.Decoder (List (Option String)) := fun depth document => do
  let [choices] ← document.slots? ["choices"] depth | none
  choices.orDefault [] (.list choiceDecoder)

/-- The content of the first choice of an answer. -/
def answerText (body : String) : Except AnswerFault String :=
  match Json.decode? answerDecoder body with
  | none => .error (.undecodable body)
  | some [] => .error .noChoices
  | some (none :: _) => .error .noMessageContent
  | some (some text :: _) => .ok text

end Completions

end GuidedSynthesis
