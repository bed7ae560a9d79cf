import GuidedSynthesis.Json.Record
/-!
Chat messages, and the kinds of model services that are talked to.
-/

namespace GuidedSynthesis

inductive Role where
  | system
  | user
  | assistant
  deriving DecidableEq, Repr

namespace Role

def name : Role → String
  | system => "system"
  | user => "user"
  | assistant => "assistant"

def toJson (r : Role) : Json := .string r.name

def decode : Json.Decoder Role :=
  .constant [(system.name, system), (user.name, user), (assistant.name, assistant)]

instance : Json.Codec Role := ⟨toJson, decode⟩

end Role

structure ChatMessage where
  role : Role
  content : String
  deriving DecidableEq, Repr

namespace ChatMessage

def toJson (m : ChatMessage) : Json :=
  .object [("role", m.role.toJson), ("content", .string m.content)]

def decode : Json.Decoder ChatMessage := fun depth document => do
  let [role, content] ← document.slots? ["role", "content"] depth | none
  some ⟨← role.required Role.decode, ← content.required .text⟩

instance : Json.Codec ChatMessage := ⟨toJson, decode⟩

end ChatMessage

/-- The kinds of model services. -/
inductive ServiceKind where
  | anthropic
  | azureOpenai
  | openai
  | copilot
  deriving DecidableEq, Repr

namespace ServiceKind

/-- The name by which a service is reported. -/
def name : ServiceKind → String
  | anthropic => "anthropic"
  | azureOpenai => "azure-openai"
  | openai => "openai"
  | copilot => "copilot"

/-- The name in stored data. -/
def tag : ServiceKind → String
  | anthropic => "Anthropic"
  | azureOpenai => "AzureOpenAI"
  | openai => "OpenAI"
  | copilot => "CopilotProxy"

def toJson (k : ServiceKind) : Json := .string k.tag

def decode : Json.Decoder ServiceKind :=
  .constant [(anthropic.tag, anthropic), (azureOpenai.tag, azureOpenai), (openai.tag, openai),
    (copilot.tag, copilot)]

instance : Json.Codec ServiceKind := ⟨toJson, decode⟩

end ServiceKind

end GuidedSynthesis
