import GuidedSynthesis.Service
/-!
Which model service is used: the first one for which variables are set.

A service needs one variable or a group of them. A variable that is blank counts as not set, and
blanks around a value do not count. As soon as one variable of a group is set the group is chosen:
then all of them have to be there, and no later service takes its place. Services come in a fixed
order, and the variables of one are not even asked for when an earlier one is chosen.
-/

namespace GuidedSynthesis

/-- The values of variables, by name. -/
abbrev Environment := String → Option String

/-- The value of a variable without blanks around it, if it is not blank. -/
def Environment.present? (environment : Environment) (name : String) : Option String :=
  ((environment name).map Text.trimmed).filter (· ≠ "")

/-- The chosen service and what it takes to use it. -/
inductive Selection where
  | anthropic (token : String)
  | azureOpenai (token : String) (deployment : Deployment)
  | openai (token : String)
  | copilot (url token : String)
  deriving DecidableEq, Repr

namespace Selection

def kind : Selection → ServiceKind
  | anthropic _ => .anthropic
  | azureOpenai .. => .azureOpenai
  | openai _ => .openai
  | copilot .. => .copilot

/-! ## Names -/

def anthropicToken : String := "BAL_CODEGEN_ANTHROPIC_TOKEN"

def azureToken : String := "BAL_CODEGEN_AZURE_OPENAI_TOKEN"

def azureDeploymentId : String := "BAL_CODEGEN_AZURE_OPENAI_DEPLOYEMENT_ID"

def azureApiVersion : String := "BAL_CODEGEN_AZURE_OPENAI_API_VERSION"

def azureServiceUrl : String := "BAL_CODEGEN_AZURE_OPENAI_SERVICE_URL"

def openaiToken : String := "BAL_CODEGEN_OPENAI_TOKEN"

def copilotUrl : String := "BAL_CODEGEN_URL"

def copilotToken : String := "BAL_CODEGEN_TOKEN"

def azureNames : List String := [azureToken, azureDeploymentId, azureApiVersion, azureServiceUrl]

def copilotNames : List String := [copilotUrl, copilotToken]

/-! ## Choosing -/

/-- Is any variable of a group set? -/
def anyPresent (environment : Environment) (names : List String) : Bool :=
  names.any fun name => (environment.present? name).isSome

/-- The variables of a group that are not set. -/
def missing (environment : Environment) (names : List String) : List String :=
  names.filter fun name => (environment.present? name).isNone

def incomplete (service : String) (environment : Environment) (names : List String) : Failure :=
  .configuration (.incomplete service (missing environment names))

/-- Refuses a value that is no URL. -/
def checkUrl (name value : String) : Result Unit :=
  match Url.parse? value with
  | .ok _ => .ok ()
  | .error fault => .error (.configuration (.invalidUrl name fault))

/-- The deployment of the group of four. -/
def azure (environment : Environment) : Result Selection :=
  match environment.present? azureToken, environment.present? azureDeploymentId,
    environment.present? azureApiVersion, environment.present? azureServiceUrl with
  | some token, some deploymentId, some apiVersion, some serviceUrl => do
    checkUrl azureServiceUrl serviceUrl
    .ok (.azureOpenai token ⟨serviceUrl, deploymentId, apiVersion⟩)
  | _, _, _, _ => .error (incomplete "Azure OpenAI" environment azureNames)

/-- The code service of the group of two. -/
def codeService (environment : Environment) : Result Selection :=
  match environment.present? copilotUrl, environment.present? copilotToken with
  | some url, some token => do
    checkUrl copilotUrl url
    .ok (.copilot url token)
  | _, _ => .error (incomplete "Ballerina Copilot" environment copilotNames)

/-- The service that the variables choose. -/
def ofEnvironment (environment : Environment) : Result Selection :=
  match environment.present? anthropicToken with
  | some token => .ok (.anthropic token)
  | none =>
    if anyPresent environment azureNames then azure environment
    else
      match environment.present? openaiToken with
      | some token => .ok (.openai token)
      | none =>
        if anyPresent environment copilotNames then codeService environment
        else .error (.configuration .noService)

/-- The names that are asked for on the way to the service, in order. -/
def asked (environment : Environment) : List String :=
  anthropicToken ::
    match environment.present? anthropicToken with
    | some _ => []
    | none =>
      azureNames ++
        if anyPresent environment azureNames then []
        else
          openaiToken ::
            match environment.present? openaiToken with
            | some _ => []
            | none => copilotNames

/-- The service to talk to. -/
def service (s : Selection) (settings : Settings) (prompts : Prompts) : Service :=
  let (backend, token) : Backend × String :=
    match s with
    | anthropic token => (.anthropic settings.anthropic, token)
    | azureOpenai token deployment => (.azureOpenai deployment settings.openai, token)
    | openai token => (.openai settings.openai, token)
    | copilot url token => (.copilot url, token)
  ⟨backend, token, settings.timeoutMillis, prompts⟩

end Selection

end GuidedSynthesis
