import GuidedSynthesis.Answer
import GuidedSynthesis.Resolver
import GuidedSynthesis.Synthesis.Run
import GuidedSynthesis.Vetting.Constant
import GuidedSynthesis.Vetting.Structure
/-!
Synthesis of one declaration: code is generated, validated and, while something is found, repaired.

A validation reads the code, and for a function also compiles it in a throw-away project together
with the sources; the compiler's errors come first and the vetting's findings after them. A repair
is asked for with the findings of the validation before it. An answer without a block of code leaves
everything as it is and still counts. When no repair is left the code is returned with what was
found last.
-/

namespace GuidedSynthesis

/-- What is synthesised. -/
inductive Target where
  | function (request : GenerationRequest)
  /-- The value of a natural expression of a document. -/
  | constant (natural : Expr) (document : String) (model : SemanticModel)

namespace Target

def repairKind : Target → RepairKind
  | function request => .function request.generatedSymbol
  | constant .. => .constantExpression

/-- The sources to start with: the code of a function becomes a file after all others. -/
def working (target : Target) (sources : SourceSet) (code : String) : SourceSet :=
  match target with
  | function request => sources.push ⟨request.generatedPath, code⟩
  | constant .. => sources

/-- The sources once the code is another: the code of a function has a file among them. -/
def takeIn (target : Target) (sources : SourceSet) (code : String) : SourceSet :=
  match target with
  | function request => sources.replace request.generatedPath code
  | constant .. => sources

end Target

/-- What a run has come to: the code and the sources to be validated next, and the repairs so
far. -/
structure Progress where
  sources : SourceSet
  generated : GeneratedCode
  state : RetryState
  deriving Repr

namespace Progress

/-- Takes note of what a validation found. -/
def observe (p : Progress) (found : List Diagnostic) : Progress :=
  { p with state := p.state.observe found }

/-- Takes in what a repair gave. -/
def accept (p : Progress) (target : Target) (repaired : Option String) : Progress :=
  match repaired with
  | some code =>
    ⟨target.takeIn p.sources code, p.generated.withCode code, p.state.advance⟩
  | none => { p with state := p.state.advance }

def context (p : Progress) (target : Target) (useCase : String) : RepairContext :=
  ⟨target.repairKind, useCase, p.sources, p.generated, p.state.diagnostics⟩

def outcome (p : Progress) : GenerationOutcome :=
  ⟨p.generated.code, p.generated.auxiliaryFunctions, p.state.attempt, p.state.diagnostics⟩

@[simp] theorem state_accept (p : Progress) (target : Target) (repaired : Option String) :
    (p.accept target repaired).state = p.state.advance := by
  cases repaired <;> rfl

/-- A repair, whatever it gives, leaves fewer repairs. -/
theorem repairsLeft_accept_lt (p : Progress) {found : List Diagnostic} {ceiling : Nat}
    (target : Target) (repaired : Option String)
    (h : (p.observe found).state.canRepair ceiling = true) :
    ((p.observe found).accept target repaired).state.repairsLeft ceiling <
      p.state.repairsLeft ceiling := by
  have hleft := ((p.observe found).state.canRepair_iff ceiling).mp h
  rw [state_accept]
  simp only [observe, RetryState.observe, RetryState.advance, RetryState.repairsLeft] at hleft ⊢
  omega

end Progress

/-- What synthesises: who is called, and how many repairs are allowed. -/
structure Synthesizer where
  generator : Generator
  host : Host
  maxRepairs : Nat

namespace Synthesizer

/-- The repairs that are allowed if nothing else is set. -/
def defaultMaxRepairs : Nat := Settings.default.maxRepairAttempts.toNat

def inspect (s : Synthesizer) : Inspection :=
  .record "GenerationOrchestrator"
    [("provider", .quoted s.generator.name),
      ("max_repair_attempts", .number s.maxRepairs)] true

/-! ## Calls -/

def generate (s : Synthesizer) (useCase : String) (sources : SourceSet) : Run GeneratedCode :=
  .perform (.generate useCase sources) fun calls => s.generator.generate calls useCase sources

def repair (s : Synthesizer) (c : RepairContext) : Run (Option String) :=
  .perform (.repair c) fun calls => s.generator.repair calls c

def parseDeclaration (s : Synthesizer) (code : String) : Run (Parsed ModulePart) :=
  .perform (.parseDeclaration code) fun calls => s.host.parseDeclaration calls code

def parseExpression (s : Synthesizer) (code : String) : Run (Parsed Expr) :=
  .perform (.parseExpression code) fun calls => s.host.parseExpression calls code

/-- Builds the throw-away project of a validation. -/
def build (s : Synthesizer) (module : ModuleDescriptor) (sources : SourceSet) :
    Run (Project × Disk) :=
  .perform (.build module sources) fun calls => s.host.build calls module sources

def compile (s : Synthesizer) (project : Project) (disk : Disk) : Run Compilation :=
  .perform (.compile project disk) fun calls => s.host.compile calls project disk

/-! ## Validation -/

/-- What is found in a generated function. -/
def validateFunction (s : Synthesizer) (request : GenerationRequest) (sources : SourceSet)
    (code : String) : Run (List Diagnostic) := do
  let parsed ← s.parseDeclaration code
  let (project, disk) ← s.build request.targetModule sources
  let compilation ← s.compile project disk
  let scope : Structure.Scope :=
    ⟨compilation.model, request.documentName, request.targetModule.organization⟩
  return Diagnostic.merge (compilation.errors.map Diagnostic.ofHost)
    (Structure.vet scope parsed.node)

/-- What is found in an expression, read in place of a natural expression. -/
def expressionFindings (natural : Expr) (document : String) (model : SemanticModel)
    (parsed : Parsed Expr) : List Diagnostic :=
  Diagnostic.merge
    ((parsed.diagnostics.filter HostDiagnostic.isError).map fun d =>
      Diagnostic.errorAt document natural.range (d.message ++ "."))
    (Constancy.vet model document parsed.node)

def validate (s : Synthesizer) (target : Target) (sources : SourceSet) (code : String) :
    Run (List Diagnostic) :=
  match target with
  | .function request => s.validateFunction request sources code
  | .constant natural document model => do
    return expressionFindings natural document model (← s.parseExpression code)

/-! ## The loop -/

/-- Validates, and goes on with what a repair gives as long as something is found and the ceiling
allows for a repair. -/
def converge (s : Synthesizer) (target : Target) (useCase : String) (p : Progress) :
    Run GenerationOutcome := do
  let found ← s.validate target p.sources p.generated.code
  if found.isEmpty then return (p.observe found).outcome
  else if (p.observe found).state.canRepair s.maxRepairs then
    let repaired ← s.repair ((p.observe found).context target useCase)
    s.converge target useCase ((p.observe found).accept target repaired)
  else return (p.observe found).outcome
termination_by p.state.repairsLeft s.maxRepairs
decreasing_by exact p.repairsLeft_accept_lt target repaired ‹_›

/-- Generates code for a use case, and validates and repairs it. -/
def synthesize (s : Synthesizer) (target : Target) (useCase : String) (sources : SourceSet) :
    Run GenerationOutcome := do
  let generated ← s.generate useCase sources
  s.converge target useCase
    ⟨target.working sources generated.code, generated, RetryState.start⟩

/-- The function of a request. -/
def generateFunction (s : Synthesizer) (request : GenerationRequest) : Run GenerationOutcome := do
  Run.ofResult request.validate
  s.synthesize (.function request)
    (Prompt.functionUseCase request.annotatedSymbol request.generatedSymbol request.prompt)
    request.promptContext

/-- The prompt of a natural expression. -/
def naturalParts (e : Expr) : Result (List PromptPart) :=
  match e with
  | .mk (.natural parts) _ _ => .ok parts
  | _ => .error (.parse ("'" ++ e.source ++ "' is not a natural expression"))

/-- The type that is expected of a natural expression or, if none is, the type that it has. -/
def expectedType (natural : Expr) (document : String) (model : SemanticModel) :
    Result TypeDescriptor :=
  match (model.expectedType natural).or (model.typeOf natural) with
  | some type => .ok type
  | none =>
    .error (.parse ("cannot determine the expected type of the natural expression at " ++
      document ++ ":" ++ natural.range.text))

/-- The constant expression that a natural expression stands for. -/
def generateConstant (s : Synthesizer) (natural : Expr) (document : String) (model : SemanticModel)
    (sources : SourceSet) : Run GenerationOutcome := do
  let parts ← Run.ofResult (naturalParts natural)
  let type ← Run.ofResult (expectedType natural document model)
  s.synthesize (.constant natural document model)
    (Prompt.constantUseCase type parts model document) sources

end Synthesizer

/-! ## Services as generators -/

namespace Service

/-- What a call sends to the service. -/
def postOf? (s : Service) : Call → Option Post
  | .generate useCase sources => some (s.generationPost useCase sources)
  | .repair c => some (s.repairPost c)
  | _ => none

/-- All that calls have sent to the service. -/
def sentBy (s : Service) (calls : List Call) : List Sent :=
  calls.filterMap fun call => (s.postOf? call).bind Post.sent?

/-- The service as a generator. -/
def generator (s : Service) (network : Network) : Generator where
  name := s.name
  generate calls useCase sources := (s.generate network (s.sentBy calls) useCase sources).1
  requestRepair calls c := (s.requestRepair network (s.sentBy calls) c).1

end Service

namespace Synthesizer

/-- Synthesis with the service of a resolver and as many repairs as the settings allow. -/
def ofResolver (r : Resolver) (environment : Environment) (network : Network) (host : Host)
    (settings : Settings) : Result (Synthesizer × Resolver) :=
  match r.get environment with
  | (.ok service, r) =>
    .ok (⟨service.generator network, host, settings.maxRepairAttempts.toNat⟩, r)
  | (.error failure, _) => .error failure

end Synthesizer

end GuidedSynthesis
