import GuidedSynthesis.Proofs.Service.Answers
/-!
The service of chat completions and its deployments.

The service itself and a deployment of it are asked in two places and with two headers, but they are
one protocol (`oneProtocol_of_settings`): with the same settings and prompts both are posted the same
JSON, for a generation and for a repair, and from the same reply both take the same result. Only a
failure that blames the service names the one that was asked (`Service.Agree`).

A repair goes on with the conversation of the generation. What is added is the code that was given,
as the assistant's turn, and the instruction to repair it, as the user's; the rest of the body stays
as it is. The instruction holds the messages of all diagnostics, each with a line break after it,
between words that do not depend on them (`RepairContext.exists_instruction_eq`).

## How the proof goes

Results that agree are taken further alike (`Agree.bind`). So it is enough that the two agree on a
reply (`agree_content`), on the text in a body (`agree_generationText`, `agree_repairText`) and on the
code in a text (`agree_requireCode`).
-/

namespace GuidedSynthesis

/-- The failure as another service would be blamed for it. -/
def Failure.ofService (name : String) : Failure → Failure
  | answer _ fault => answer name fault
  | rejected _ message => rejected name message
  | missingCodeBlock _ => missingCodeBlock name
  | withContext context cause => withContext context (cause.ofService name)
  | failure => failure

/-- A request is sent, and there is this reply to it or none. -/
def Post.Receives (p : Post) (network : Network) (sent : List Sent) (reply : Reply) : Prop :=
  ∃ request, p.sent? = some request ∧ network sent request = reply

/-- Between its own words an instruction has the messages, each with a line break after it. -/
theorem RepairContext.exists_instruction_eq (kind : RepairKind) : ∃ before after : String,
    ∀ (useCase : String) (sources : SourceSet) (generated : GeneratedCode)
      (diagnostics : List Diagnostic),
      (RepairContext.mk kind useCase sources generated diagnostics).instruction =
        before ++ String.join (diagnostics.map fun d => d.message ++ "\n") ++ after := by
  cases kind with
  | function name => exact ⟨_, "\n", fun _ _ _ _ => rfl⟩
  | constantExpression =>
    refine ⟨Prompt.expressionRepairTask ++ "\nErrors: ", "", fun _ _ _ _ => ?_⟩
    rw [String.append_empty]
    rfl

namespace Service

/-! ## 1. Results that agree -/

/-- Two results are the same, but that a failure blames the service that was asked. -/
def Agree {α : Type} (s t : Service) (x y : Result α) : Prop :=
  y = x.mapError (Failure.ofService t.name) ∧ x = y.mapError (Failure.ofService s.name)

section

variable {α β : Type} {s t : Service} {x y : Result α} {network other : Network}
  {sent earlier : List Sent} {reply : Reply}

theorem Agree.ok (a : α) : Agree s t (.ok a) (.ok a) := ⟨rfl, rfl⟩

theorem Agree.bind {f g : α → Result β} (h : Agree s t x y) (hf : ∀ a, Agree s t (f a) (g a)) :
    Agree s t (x.bind f) (y.bind g) := by
  obtain ⟨rfl, hx⟩ := h
  cases x with
  | ok a => exact hf a
  | error failure => exact ⟨rfl, congrArg Except.error (Except.error.inj hx)⟩

theorem Agree.map (h : Agree s t x y) (f : α → β) : Agree s t (x.map f) (y.map f) := by
  obtain ⟨rfl, hx⟩ := h
  cases x with
  | ok a => exact .ok (f a)
  | error failure => exact ⟨rfl, congrArg Except.error (Except.error.inj hx)⟩

theorem agree_content (s t : Service) (reply : Reply) (timeoutMillis : Nat) :
    Agree s t (reply.content s.name timeoutMillis) (reply.content t.name timeoutMillis) := by
  refine .bind ?_ fun answer => ?_
  · cases reply with
    | answered status body =>
      rw [Reply.answer]
      split <;> exact ⟨rfl, rfl⟩
    | silence => exact ⟨rfl, rfl⟩
    | closed => exact ⟨rfl, rfl⟩
  · obtain ⟨status, text⟩ := answer
    show Agree s t (if _ then _ else _) (if _ then _ else _)
    split <;> exact ⟨rfl, rfl⟩

theorem agree_requireCode (s t : Service) (text : String) :
    Agree s t (Answer.requireCode s.name text) (Answer.requireCode t.name text) := by
  rw [Answer.requireCode, Answer.requireCode]
  cases Answer.code? text <;> exact ⟨rfl, rfl⟩

/-- The same reply is taken alike if the text in it is read alike. -/
theorem agree_exchange {p q : Post} {read readOther : String → Result α}
    (htimeout : s.timeoutMillis = t.timeoutMillis)
    (hp : p.Receives network sent reply) (hq : q.Receives other earlier reply)
    (hread : ∀ body, Agree s t (read body) (readOther body)) :
    Agree s t ((p.exchange s.name s.timeoutMillis network sent).1.bind read)
      ((q.exchange t.name t.timeoutMillis other earlier).1.bind readOther) := by
  obtain ⟨request, hsent, rfl⟩ := hp
  obtain ⟨requestOther, hsentOther, hreply⟩ := hq
  simp only [Post.exchange, hsent, hsentOther, hreply, htimeout]
  exact (agree_content s t _ _).bind hread

theorem generate_eq (s : Service) (network : Network) (sent : List Sent) (useCase : String)
    (sources : SourceSet) : (s.generate network sent useCase sources).1 =
      ((s.generationPost useCase sources).exchange s.name s.timeoutMillis network sent).1.bind
        s.generated := by
  rw [generate]

theorem requestRepair_eq (s : Service) (network : Network) (sent : List Sent) (c : RepairContext) :
    (s.requestRepair network sent c).1 =
      ((s.repairPost c).exchange s.name s.timeoutMillis network sent).1.bind s.repairText := by
  rw [requestRepair]

theorem agree_generate {useCase : String} {sources : SourceSet}
    (htimeout : s.timeoutMillis = t.timeoutMillis)
    (hread : ∀ body, Agree s t (s.generated body) (t.generated body))
    (hs : (s.generationPost useCase sources).Receives network sent reply)
    (ht : (t.generationPost useCase sources).Receives other earlier reply) :
    Agree s t (s.generate network sent useCase sources).1
      (t.generate other earlier useCase sources).1 := by
  rw [generate_eq, generate_eq]
  exact agree_exchange htimeout hs ht hread

/-- The text that answers a repair is taken alike, and then so is the code in it. -/
theorem agree_repair {c : RepairContext} (htimeout : s.timeoutMillis = t.timeoutMillis)
    (hread : ∀ body, Agree s t (s.repairText body) (t.repairText body))
    (hs : (s.repairPost c).Receives network sent reply)
    (ht : (t.repairPost c).Receives other earlier reply) :
    Agree s t (s.requestRepair network sent c).1 (t.requestRepair other earlier c).1 ∧
    Agree s t (s.repair network sent c).1 (t.repair other earlier c).1 := by
  have hcode (body : String) : Agree s t (s.repaired body) (t.repaired body) :=
    (hread body).map Answer.code?
  rw [requestRepair_eq, requestRepair_eq, repair_eq, repair_eq]
  exact ⟨agree_exchange htimeout hs ht hread, agree_exchange htimeout hs ht hcode⟩

end

/-! ## 2. One protocol -/

/-- Two services are asked with the same bodies and take the same from the same replies. -/
structure OneProtocol (s t : Service) : Prop where
  generationBody : ∀ useCase sources,
    (s.generationPost useCase sources).body = (t.generationPost useCase sources).body
  repairBody : ∀ c, (s.repairPost c).body = (t.repairPost c).body
  generated : ∀ network other sent earlier reply useCase sources,
    (s.generationPost useCase sources).Receives network sent reply →
    (t.generationPost useCase sources).Receives other earlier reply →
    Agree s t (s.generate network sent useCase sources).1 (t.generate other earlier useCase sources).1
  repaired : ∀ network other sent earlier reply c,
    (s.repairPost c).Receives network sent reply → (t.repairPost c).Receives other earlier reply →
    Agree s t (s.requestRepair network sent c).1 (t.requestRepair other earlier c).1 ∧
    Agree s t (s.repair network sent c).1 (t.repair other earlier c).1

/-- The body of a repair goes on with that of the generation: the messages are the same, then comes
the code as the assistant's turn and the instruction as the user's. -/
def Resumes (c : RepairContext) (generation repair : Json) : Prop :=
  ∃ fields messages,
    generation = .object (fields ++ [("messages", .array (messages.map ChatMessage.toJson))]) ∧
    repair = .object (fields ++ [("messages", .array
      ((messages ++ [⟨.assistant, c.generated.code⟩, ⟨.user, c.instruction⟩]).map
        ChatMessage.toJson))])

theorem resumes_body (settings : ModelSettings) (prompts : Prompts) (c : RepairContext) :
    Resumes c (Completions.body settings (Completions.generation prompts c.useCase c.sources))
      (Completions.body settings (Completions.repair prompts c)) :=
  ⟨[("model", .string settings.model), ("max_tokens", .ofNat settings.maxTokens.toNat),
    ("temperature", .number (.single settings.temperature))],
    Completions.generation prompts c.useCase c.sources, rfl, rfl⟩

section

variable (settings : ModelSettings) (prompts : Prompts) (timeoutMillis : Nat)
  (deployment : Deployment) (token key : String)

theorem agree_generationText (body : String) :
    Agree ⟨.openai settings, token, timeoutMillis, prompts⟩
      ⟨.azureOpenai deployment settings, key, timeoutMillis, prompts⟩
      (generationText ⟨.openai settings, token, timeoutMillis, prompts⟩ body)
      (generationText ⟨.azureOpenai deployment settings, key, timeoutMillis, prompts⟩ body) := by
  rw [generationText_eq, generationText_eq]
  cases Completions.answerText body <;> exact ⟨rfl, rfl⟩

theorem agree_repairText (body : String) :
    Agree ⟨.openai settings, token, timeoutMillis, prompts⟩
      ⟨.azureOpenai deployment settings, key, timeoutMillis, prompts⟩
      (repairText ⟨.openai settings, token, timeoutMillis, prompts⟩ body)
      (repairText ⟨.azureOpenai deployment settings, key, timeoutMillis, prompts⟩ body) := by
  unfold repairText
  cases Completions.answerText body <;> exact ⟨rfl, rfl⟩

theorem agree_generated (body : String) :
    Agree ⟨.openai settings, token, timeoutMillis, prompts⟩
      ⟨.azureOpenai deployment settings, key, timeoutMillis, prompts⟩
      (generated ⟨.openai settings, token, timeoutMillis, prompts⟩ body)
      (generated ⟨.azureOpenai deployment settings, key, timeoutMillis, prompts⟩ body) :=
  (agree_generationText settings prompts timeoutMillis deployment token key body).bind fun answer =>
    (agree_requireCode _ _ answer.text).bind fun code => .ok (GeneratedCode.mk code answer.functions)

/-- The service of chat completions and a deployment of it are one protocol, whatever the settings
and the prompts are and wherever the deployment is. For either of them a repair goes on with the
conversation of the generation, and its instruction has the messages of all diagnostics in their
order, with a line break after each. -/
theorem oneProtocol_of_settings :
    OneProtocol ⟨.openai settings, token, timeoutMillis, prompts⟩
      ⟨.azureOpenai deployment settings, key, timeoutMillis, prompts⟩ ∧
    (∀ backend ∈ [Backend.openai settings, .azureOpenai deployment settings], ∀ c,
      Resumes c (generationPost ⟨backend, token, timeoutMillis, prompts⟩ c.useCase c.sources).body
        (repairPost ⟨backend, token, timeoutMillis, prompts⟩ c).body) ∧
    ∀ kind, ∃ before after : String, ∀ useCase sources generated diagnostics,
      (RepairContext.mk kind useCase sources generated diagnostics).instruction =
        before ++ String.join (diagnostics.map fun d => d.message ++ "\n") ++ after := by
  have hgenerated := agree_generated settings prompts timeoutMillis deployment token key
  have hrepairText := agree_repairText settings prompts timeoutMillis deployment token key
  refine ⟨⟨fun _ _ => rfl, fun _ => rfl, ?_, ?_⟩, ?_, RepairContext.exists_instruction_eq⟩
  · intro network other sent earlier reply useCase sources hs ht
    exact agree_generate rfl hgenerated hs ht
  · intro network other sent earlier reply c hs ht
    exact agree_repair rfl hrepairText hs ht
  · intro backend hbackend c
    simp only [List.mem_cons, List.not_mem_nil, or_false] at hbackend
    obtain rfl | rfl := hbackend <;> exact resumes_body settings prompts c

end

/-! A rejection names the service that was asked, and is the same otherwise. -/

/-- The service itself, here on the machine. -/
def direct : Service :=
  ⟨.openai { Settings.defaultOpenai with endpoint := "http://[::1]" }, "token", 1000, ⟨""⟩⟩

/-- A deployment of it. -/
def deployed : Service :=
  ⟨.azureOpenai ⟨"http://[::1]", "deployment", "1"⟩
    { Settings.defaultOpenai with endpoint := "http://[::1]" }, "key", 1000, ⟨""⟩⟩

theorem oneProtocol_of_rejection :
    (direct.generate (always 500 "busy") [] "one" .empty).1 = .error (.rejected "openai"
      "HTTP request failed with status code 500 and body: busy") ∧
    (deployed.generate (always 500 "busy") [] "one" .empty).1 = .error (.rejected "azure-openai"
      "HTTP request failed with status code 500 and body: busy") := by
  have hdirect : (direct.generationPost "one" .empty).sent?.isSome = true := by decide +kernel
  have hdeployed : (deployed.generationPost "one" .empty).sent?.isSome = true := by
    decide +kernel
  have hrejected : (direct.generate (always 500 "busy") [] "one" .empty).1 =
      .error (.rejected "openai" "HTTP request failed with status code 500 and body: busy") := by
    rw [generate_eq, Post.exchange_of_isAnswered (isAnswered_always hdirect 500 "busy") rfl,
      if_neg (by decide)]
    rfl
  obtain ⟨hprotocol, -, -⟩ := oneProtocol_of_settings
    { Settings.defaultOpenai with endpoint := "http://[::1]" } ⟨""⟩ 1000
    ⟨"http://[::1]", "deployment", "1"⟩ "token" "key"
  have hagree := hprotocol.generated (always 500 "busy") (always 500 "busy") [] [] _ "one" .empty
    (isAnswered_always hdirect 500 "busy") (isAnswered_always hdeployed 500 "busy")
  exact ⟨hrejected, hagree.1.trans (congrArg _ hrejected)⟩

end Service

end GuidedSynthesis
