import GuidedSynthesis.Proofs.Synthesis.Passes
/-!
Findings that are no errors.

A host says more about a code than its errors: it warns, it hints, and it may remark on a
declaration that it reads. No run heeds any of that. Two hosts that agree on the trees, on the
models, on the projects that are built, on the failures and on the errors in their order have the
same runs, call by call, whatever else they say and wherever they say it
(`carryOut_eq_of_agreesOnErrors`).

## How the proof goes

Each answer of a host has a part that is heeded (`Parsed.heeded`, `Compilation.heeded`), and what
comes after the answer rests on that part alone, so the runs agree after the call if the heeded
parts do (`Run.perform_bind_congr`). The loop is compared turn by turn: the two validations of a
turn are the same run, so both loops find the same and go on in the same way.
-/

namespace GuidedSynthesis

/-! ## 1. What is heeded -/

/-- What a run heeds of an expression that was read. -/
def Parsed.heeded (p : Parsed α) : α × List HostDiagnostic :=
  (p.node, p.diagnostics.filter HostDiagnostic.isError)

/-- What a run heeds of a compilation. -/
def Compilation.heeded (c : Compilation) : SemanticModel × List HostDiagnostic :=
  (c.model, c.errors)

namespace Host

/-- Two hosts that agree on all that is heeded, at every call and after any calls. What is said
about a declaration that is read is never heeded. -/
structure AgreesOnErrors (h k : Host) : Prop where
  parseDeclaration : ∀ calls code,
    (h.parseDeclaration calls code).map Parsed.node =
      (k.parseDeclaration calls code).map Parsed.node
  parseExpression : ∀ calls code,
    (h.parseExpression calls code).map Parsed.heeded =
      (k.parseExpression calls code).map Parsed.heeded
  build : ∀ calls module sources, h.build calls module sources = k.build calls module sources
  compile : ∀ calls project disk,
    (h.compile calls project disk).map Compilation.heeded =
      (k.compile calls project disk).map Compilation.heeded

/-- The same host, saying nothing but errors. -/
def errorsOnly (h : Host) : Host where
  parseDeclaration calls code := (h.parseDeclaration calls code).map fun p => ⟨p.node, []⟩
  parseExpression calls code :=
    (h.parseExpression calls code).map fun p =>
      ⟨p.node, p.diagnostics.filter HostDiagnostic.isError⟩
  compile calls project disk :=
    (h.compile calls project disk).map fun c => ⟨c.errors, c.model⟩
  scratch := h.scratch

theorem agreesOnErrors_errorsOnly (h : Host) : h.AgreesOnErrors h.errorsOnly := by
  refine ⟨fun calls code => ?_, fun calls code => ?_, fun _ _ _ => rfl,
    fun calls project disk => ?_⟩
  · simp only [errorsOnly]
    cases h.parseDeclaration calls code <;> rfl
  · simp only [errorsOnly]
    cases h.parseExpression calls code with
    | error failure => rfl
    | ok p => simp [Except.map, Parsed.heeded, List.filter_filter]
  · simp only [errorsOnly]
    cases h.compile calls project disk with
    | error failure => rfl
    | ok c => simp [Except.map, Compilation.heeded, Compilation.errors, List.filter_filter]

end Host

theorem expressionFindings_congr {natural : Expr} {document : String} {model : SemanticModel}
    {p q : Parsed Expr} (h : p.heeded = q.heeded) :
    Synthesizer.expressionFindings natural document model p =
      Synthesizer.expressionFindings natural document model q := by
  obtain ⟨hnode, herrors⟩ := Prod.mk.inj h
  unfold Synthesizer.expressionFindings
  rw [hnode, herrors]

/-! ## 2. Runs with two hosts -/

/-- If what comes after a call rests on a part of the answer, an answer with the same part does as
well. -/
theorem Run.perform_bind_congr {call : Call} {answer other : List Call → Result α} {part : α → γ}
    {next following : α → Run β} (h : ∀ calls, (answer calls).map part = (other calls).map part)
    (hnext : ∀ a b, part a = part b → next a = following b) :
    (Run.perform call answer >>= next) = (Run.perform call other >>= following) := by
  funext calls
  have hcall := h calls
  match hanswer : answer calls, hother : other calls with
  | .error failure, .error failure' =>
    rw [hanswer, hother] at hcall
    have hfailure : failure = failure' := Except.error.inj hcall
    have hfirst : Run.perform call answer calls = (.error failure, calls ++ [call]) :=
      Prod.ext hanswer rfl
    have hsecond : Run.perform call other calls = (.error failure, calls ++ [call]) :=
      Prod.ext (by rw [hfailure]; exact hother) rfl
    rw [Run.bind_of_error hfirst, Run.bind_of_error hsecond]
  | .ok a, .ok b =>
    rw [hanswer, hother] at hcall
    have hfirst : Run.perform call answer calls = (.ok a, calls ++ [call]) :=
      Prod.ext hanswer rfl
    have hsecond : Run.perform call other calls = (.ok b, calls ++ [call]) :=
      Prod.ext hother rfl
    rw [Run.bind_of_ok hfirst, Run.bind_of_ok hsecond, hnext a b (Except.ok.inj hcall)]
  | .error _, .ok _ | .ok _, .error _ =>
    rw [hanswer, hother] at hcall
    exact nomatch hcall

namespace Synthesizer

/-- The same with another host. -/
def withHost (s : Synthesizer) (host : Host) : Synthesizer := { s with host }

variable {s : Synthesizer} {h k : Host} {target : Target} {useCase : String}

/-- A validation is the same run: the same calls are made, and the same is found. -/
theorem validate_withHost (agree : h.AgreesOnErrors k) (sources : SourceSet) (code : String) :
    (s.withHost h).validate target sources code = (s.withHost k).validate target sources code := by
  cases target with
  | constant natural document model =>
    refine Run.perform_bind_congr (agree.parseExpression · code) fun p q hsame => ?_
    rw [expressionFindings_congr hsame]
  | function request =>
    refine Run.perform_bind_congr (agree.parseDeclaration · code) fun p q hnode => ?_
    have hbuild : (s.withHost h).build request.targetModule sources =
        (s.withHost k).build request.targetModule sources :=
      congrArg (Run.perform _) (funext (agree.build · request.targetModule sources))
    rw [hbuild]
    refine bind_congr fun (project, disk) => ?_
    refine Run.perform_bind_congr (agree.compile · project disk) fun c d hsame => ?_
    obtain ⟨hmodel, herrors⟩ := Prod.mk.inj hsame
    rw [hmodel, herrors, hnode]

theorem converge_withHost (agree : h.AgreesOnErrors k) (p : Progress) :
    (s.withHost h).converge target useCase p = (s.withHost k).converge target useCase p := by
  -- a repair leaves fewer repairs
  induction hleft : p.state.repairsLeft s.maxRepairs using Nat.strongRecOn generalizing p with
  | _ n ih =>
    subst hleft
    rw [converge, converge, validate_withHost agree]
    refine bind_congr fun found => ?_
    have hrepaired : (p.observe found).state.canRepair s.maxRepairs = true → ∀ repaired,
        (s.withHost h).converge target useCase ((p.observe found).accept target repaired) =
          (s.withHost k).converge target useCase ((p.observe found).accept target repaired) :=
      fun allowed repaired => ih _ (p.repairsLeft_accept_lt target repaired allowed) _ rfl
    by_cases hempty : found.isEmpty
    · rw [if_pos hempty, if_pos hempty]
    · rw [if_neg hempty, if_neg hempty]
      by_cases hallowed : (p.observe found).state.canRepair s.maxRepairs = true
      · exact (if_pos hallowed).trans
          ((bind_congr (hrepaired hallowed)).trans (if_pos hallowed).symm)
      · exact (if_neg hallowed).trans (if_neg hallowed).symm

theorem synthesize_withHost (agree : h.AgreesOnErrors k) (sources : SourceSet) :
    (s.withHost h).synthesize target useCase sources =
      (s.withHost k).synthesize target useCase sources :=
  bind_congr fun _ => converge_withHost agree _

theorem carryOut_withHost (agree : h.AgreesOnErrors k) (task : Task) :
    (s.withHost h).carryOut task = (s.withHost k).carryOut task := by
  cases task with
  | function request => exact bind_congr fun _ => synthesize_withHost agree _
  | constant natural document model sources =>
    exact bind_congr fun _ => bind_congr fun _ => synthesize_withHost agree _

/-- With hosts that agree on errors a run makes the same calls with the same arguments, those to the
generator among them, and comes to the same outcome or the same failure. It is the run with a host
that says nothing but errors. -/
theorem carryOut_eq_of_agreesOnErrors (s : Synthesizer) {h k : Host} (agree : h.AgreesOnErrors k)
    (task : Task) :
    (s.withHost h).carryOut task = (s.withHost k).carryOut task ∧
      (s.withHost h).carryOut task = (s.withHost h.errorsOnly).carryOut task :=
  ⟨carryOut_withHost agree task, carryOut_withHost h.agreesOnErrors_errorsOnly task⟩

/-! A host that has something to say about every code. -/

/-- Warns about every expression, before and after its errors, and hints at every declaration. -/
def chattyHost : Host where
  parseDeclaration calls code :=
    (numeralHost.parseDeclaration calls code).map fun p =>
      ⟨p.node, ⟨.hint, "declared", none, none⟩ :: p.diagnostics⟩
  parseExpression calls code :=
    (numeralHost.parseExpression calls code).map fun p =>
      ⟨p.node, ⟨.warning, "unused", none, none⟩ :: p.diagnostics ++ [⟨.info, code, none, none⟩]⟩
  compile calls project disk := numeralHost.compile calls project disk

theorem agreesOnErrors_chattyHost : chattyHost.AgreesOnErrors numeralHost := by
  refine ⟨fun _ _ => rfl, fun calls code => ?_, fun _ _ _ => rfl, fun _ _ _ => rfl⟩
  simp [chattyHost, numeralHost, Except.map, Parsed.heeded, HostDiagnostic.isError]

/-- The warnings about the code `1` ask for no further repair. -/
theorem carryOut_eq_of_warnings :
    chattyHost.AgreesOnErrors numeralHost ∧
    (chattyHost.parseExpression [] "1").map (fun p => p.diagnostics.length) = .ok 2 ∧
    ∃ after, (withHost ⟨onceWrong, numeralHost, 3⟩ chattyHost).carryOut intTask [] =
      (.ok ⟨"1", none, 1, []⟩, after) := by
  let useCase := Prompt.constantUseCase ⟨"int"⟩ [] intModel "main.bal"
  have hloop : ∃ after, Converges ⟨onceWrong, numeralHost, 3⟩ intTask.target useCase
      ⟨.empty, ⟨"1 +", none⟩, .start⟩ [.generate useCase .empty] (.ok ⟨"1", none, 1, []⟩) after :=
    ⟨_, .repaired rfl (by decide) rfl rfl (.clean rfl)⟩
  obtain ⟨after, hconverges⟩ := hloop
  have hquiet : (withHost ⟨onceWrong, numeralHost, 3⟩ numeralHost).carryOut intTask [] =
      (.ok ⟨"1", none, 1, []⟩, after) := hconverges.converge_eq
  obtain ⟨hsame, -⟩ :=
    carryOut_eq_of_agreesOnErrors ⟨onceWrong, numeralHost, 3⟩ agreesOnErrors_chattyHost intTask
  exact ⟨agreesOnErrors_chattyHost, rfl, after, by rw [hsame, hquiet]⟩

end Synthesizer

end GuidedSynthesis
