import GuidedSynthesis.Chat
import GuidedSynthesis.Service.Exchange
import GuidedSynthesis.Service.Repair
import GuidedSynthesis.Settings
/-!
The messages protocol: instructions and conversation apart, in blocks that may be cached.

The library reference makes the instructions long and they are the same in every request, so their
block is marked to be cached, and so is the user's part of a first request.
-/

namespace GuidedSynthesis.Messages

/-- The version of the protocol. -/
def version : String := "2023-06-01"

def textBlock (text : String) : Json := .object [("type", .string "text"), ("text", .string text)]

/-- A block that the service is asked to keep. -/
def cachedBlock (text : String) : Json :=
  .object [("type", .string "text"), ("text", .string text),
    ("cache_control", .object [("type", .string "ephemeral")])]

def message (role : Role) (content : Json) : Json :=
  .object [("role", role.toJson), ("content", content)]

def instructions (prompts : Prompts) : Json :=
  .array [textBlock Prompt.systemOpening, cachedBlock (Prompt.systemInstructions prompts)]

/-- The conversation of a first request. -/
def generation (useCase : String) (sources : SourceSet) : List Json :=
  [message .user (.array [cachedBlock (Prompt.query useCase sources)])]

/-- The conversation of a repair: the request, the code that it gave, and what is wrong with it. -/
def repair (c : RepairContext) : List Json :=
  [message .user (.string (Prompt.query c.useCase c.sources)),
    message .assistant (.string c.generated.code), message .user (.string c.instruction)]

def post (settings : ModelSettings) (token : String) (prompts : Prompts)
    (conversation : List Json) : Post :=
  { url := withoutTrailingSlashes settings.endpoint ++ "/v1/messages"
    headers := [("anthropic-version", version), Post.contentType, ("x-api-key", token)]
    body := .object [("model", .string settings.model),
      ("max_tokens", .ofNat settings.maxTokens.toNat),
      ("temperature", .number (.single settings.temperature)), ("system", instructions prompts),
      ("messages", .array conversation)] }

/-! ## Answers -/

/-- The text of a block, if it has any. -/
def blockDecoder : Json.Decoder (Option String) := fun depth document => do
  let [text] ← document.slots? ["text"] depth | none
  text.orDefault none (.nullable .text)

def answerDecoder : Json.Decoder (List (Option String)) := fun depth document => do
  let [content] ← document.slots? ["content"] depth | none
  content.orDefault [] (.list blockDecoder)

/-- The text of the first block of an answer. -/
def answerText (body : String) : Except AnswerFault String :=
  match Json.decode? answerDecoder body with
  | none => .error (.undecodable body)
  | some (some text :: _) => .ok text
  | some _ => .error .noContent

end GuidedSynthesis.Messages
