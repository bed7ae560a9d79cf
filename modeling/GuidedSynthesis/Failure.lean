import GuidedSynthesis.Decimal.Notation
import GuidedSynthesis.Disk.Fault
import GuidedSynthesis.Url.Fault
/-!
Failures: everything that ends a request, by its cause.

Findings about generated code are not failures; they are `Diagnostic`s and drive the repair. A
failure may be wrapped in any number of contexts. Its category, and whether it is the operator's or
the network's, are those of the innermost cause.
-/

namespace GuidedSynthesis

/-- What is wrong with the settings or the variables that choose a model service. -/
inductive ConfigurationFault where
  | noService
  | incomplete (service : String) (missing : List String)
  | invalidUrl (setting : String) (fault : Url.Fault)
  | unreadable (fault : Disk.Fault)
  | unwritable (fault : Disk.Fault)
  | invalidToml
  | invalidJson
  | unsupportedFormat
  | zeroTimeout
  | zeroTokens
  | zeroThreshold
  | noHome
  | reported (text : String)
  deriving DecidableEq, Repr

def ConfigurationFault.message : ConfigurationFault → String
  | noService =>
    "Failed to create a provider for code generation. Ensure that the environment are set properly."
  | incomplete service missing =>
    service ++ " configuration is incomplete. The following required environment variables are " ++
      "missing: " ++ ", ".intercalate missing
  | invalidUrl setting fault => "Invalid URL in " ++ setting ++ ": " ++ fault.message
  | unreadable fault => "Failed to read config file: " ++ fault.message
  | unwritable fault => "Failed to write config file: " ++ fault.message
  | invalidToml => "Invalid TOML config: the text does not describe settings"
  | invalidJson => "Invalid JSON config: the text does not describe settings"
  | unsupportedFormat => "Unsupported config file format"
  | zeroTimeout => "Timeout must be greater than 0"
  | zeroTokens => "max_tokens must be greater than 0"
  | zeroThreshold => "Large library threshold must be greater than 0"
  | noHome => "Failed to determine home directory"
  | reported text => text

/-- What keeps a request from being sent, or its answer from arriving. -/
inductive ConnectionFault where
  | notBuilt
  | notAnswered
  | reported (text : String)
  deriving DecidableEq, Repr

def ConnectionFault.message : ConnectionFault → String
  | notBuilt => "builder error"
  | notAnswered => "error sending request"
  | reported text => text

/-- What is wrong with the answer of a model service. A text that cannot be decoded is kept, since
what the decoder says of it depends on that text alone. -/
inductive AnswerFault where
  | undecodable (body : String)
  | undecodableRepair (body : String)
  | noContent
  | noChoices
  | noMessageContent
  | missingRepair
  | deltaWithoutText
  | functionsNotArray
  | missingData
  | undecodableData (data : String)
  | reported (text : String)
  deriving DecidableEq, Repr

def AnswerFault.message : AnswerFault → String
  | undecodable _ => "Failed to parse response: unexpected text"
  | undecodableRepair _ => "Failed to parse repair response: unexpected text"
  | noContent => "No content found in LLM response"
  | noChoices => "No choices found in LLM response"
  | noMessageContent => "First choice has no message content"
  | missingRepair => "Missing repairResponse"
  | deltaWithoutText => "content_block_delta without text"
  | functionsNotArray => "functions event is not an array"
  | missingData => "event without a data line"
  | undecodableData _ => "invalid event data: unexpected text"
  | reported text => text

/-- What is wrong before any service is asked. -/
inductive InternalFault where
  | invalidIdentifier (name : String)
  | emptyPrompt (name : String)
  /-- There is no client with which to ask a service. -/
  | noClient (reason : String)
  | reported (text : String)
  deriving DecidableEq, Repr

def InternalFault.message : InternalFault → String
  | invalidIdentifier name => "'" ++ name ++ "' is not a valid identifier"
  | emptyPrompt name => "Empty prompt for '" ++ name ++ "'"
  | noClient reason => "Failed to build HTTP client: " ++ reason
  | reported text => text

/-- Why a request ended without a result. -/
inductive Failure where
  | configuration (fault : ConfigurationFault)
  | connection (fault : ConnectionFault)
  | timeout (millis : Nat)
  | answer (service : String) (fault : AnswerFault)
  | rejected (service : String) (message : String)
  | missingCodeBlock (service : String)
  | parse (message : String)
  | compilation (message : String)
  | invalidSourcePath (path : String)
  | io (fault : Disk.Fault)
  | json (message : String)
  | tomlWrite (message : String)
  | tomlRead (message : String)
  | internal (fault : InternalFault)
  | withContext (context : String) (cause : Failure)
  deriving DecidableEq, Repr, Inhabited

namespace Failure

def message : Failure → String
  | configuration fault => "Configuration error: " ++ fault.message
  | connection fault => "Connection error: " ++ fault.message
  | timeout millis =>
    "Connection error: request timed out after " ++
      String.ofList (Decimal.digitsOf (millis / 1000)) ++ "s"
  | answer service fault => "Malformed response from " ++ service ++ ": " ++ fault.message
  | rejected service message => "Request rejected by " ++ service ++ ": " ++ message
  | missingCodeBlock service =>
    "Response from " ++ service ++ " does not contain a ```ballerina code block"
  | parse message => "Parse error: " ++ message
  | compilation message => "Compilation error: " ++ message
  | invalidSourcePath path => "Invalid source file path: " ++ path
  | io fault => "IO error: " ++ fault.message
  | json message => "JSON error: " ++ message
  | tomlWrite message => "TOML serialization error: " ++ message
  | tomlRead message => "TOML parse error: " ++ message
  | internal fault => "Internal error: " ++ fault.message
  | withContext context cause => context ++ ": " ++ cause.message

/-- The kinds of failure that a user is told apart. -/
inductive Category where
  | configuration
  | connection
  | serviceAnswer
  | rejected
  | parse
  | internal
  deriving DecidableEq, Repr

def Category.name : Category → String
  | configuration => "ConfigurationError"
  | connection => "ConnectionError"
  | serviceAnswer => "ProviderResponseError"
  | rejected => "ProviderRejectedError"
  | parse => "ParseError"
  | internal => "InternalError"

def category : Failure → Category
  | configuration _ => .configuration
  | connection _ | timeout _ => .connection
  | answer .. | missingCodeBlock _ => .serviceAnswer
  | rejected .. => .rejected
  | parse _ => .parse
  | withContext _ cause => cause.category
  | _ => .internal

/-- Only the operator can mend it. -/
def isFatal : Failure → Bool
  | configuration _ => true
  | withContext _ cause => cause.isFatal
  | _ => false

/-- It came from the network. -/
def isConnection : Failure → Bool
  | connection _ | timeout _ => true
  | withContext _ cause => cause.isConnection
  | _ => false

end Failure

/-- A result or the failure that prevented it. -/
abbrev Result := Except Failure

end GuidedSynthesis
