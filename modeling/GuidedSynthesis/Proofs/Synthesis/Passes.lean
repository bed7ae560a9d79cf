import GuidedSynthesis.Proofs.Disk.Build
import GuidedSynthesis.Proofs.Disk.Project
import GuidedSynthesis.Proofs.Synthesis.Loop
import Mathlib.Data.List.Chain
/-!
The passes of a run.

A run that comes to an outcome is a row of passes of validation with one repair between each two of
them (`RunLaw`): every repair carries the code and the findings of the pass before it, the last pass
is about the code of the outcome, and what it found is what remains. Every run, also one that fails,
is bounded by the ceiling (`RunBound`). Both hold of whatever is asked for (`run_law`).

## How the proof goes

Calls are counted by adding up along the loop (`Converges.tally`), whatever it ends in. The passes
are put in a row from the end of the loop: each turn puts its own pass before those of the turns
that follow (`Converges.row`).
-/

namespace GuidedSynthesis

/-! ## 1. Counting calls -/

namespace Call

def isGeneration : Call → Bool
  | generate .. => true
  | _ => false

def isRepair : Call → Bool
  | repair _ => true
  | _ => false

/-- Is generated code read? Every validation starts with that. -/
def isReading : Call → Bool
  | parseDeclaration _ | parseExpression _ => true
  | _ => false

end Call

/-- How many calls of each sort there are among some calls. -/
structure Tally (calls : List Call) (generations repairs readings : Nat) : Prop where
  generations : calls.countP Call.isGeneration = generations
  repairs : calls.countP Call.isRepair = repairs
  readings : calls.countP Call.isReading = readings

theorem Tally.append {xs ys : List Call} {g g' r r' v v' : Nat} (hx : Tally xs g r v)
    (hy : Tally ys g' r' v') : Tally (xs ++ ys) (g + g') (r + r') (v + v') := by
  refine ⟨?_, ?_, ?_⟩
  · rw [List.countP_append, hx.generations, hy.generations]
  · rw [List.countP_append, hx.repairs, hy.repairs]
  · rw [List.countP_append, hx.readings, hy.readings]

namespace Synthesizer

variable {s : Synthesizer} {target : Target} {useCase : String}

/-- A validation reads the code once and asks for nothing, however it ends. -/
theorem Validation.tally {sources : SourceSet} {code : String} {before made : List Call}
    (h : Validation s before sources code target made) : Tally made 0 0 1 := by
  cases h <;> exact ⟨rfl, rfl, rfl⟩

theorem tally_validate {sources : SourceSet} {code : String} {before after : List Call}
    {result : Result (List Diagnostic)}
    (h : s.validate target sources code before = (result, after)) :
    ∃ made, after = before ++ made ∧ Tally made 0 0 1 ∧
      ∀ found, result = .ok found → Finding s before sources code target found made := by
  obtain ⟨made, hmade, hcalls, hfound⟩ := calls_validate h
  exact ⟨made, hmade, hcalls.tally, hfound⟩

/-- The calls of a loop: as many repairs as are left at most, and one validation more than repairs
unless a repair failed. -/
theorem Converges.tally {p : Progress} {before after : List Call}
    {result : Result GenerationOutcome} (h : s.Converges target useCase p before result after) :
    ∃ made repairs readings, after = before ++ made ∧ Tally made 0 repairs readings ∧
      repairs ≤ p.state.repairsLeft s.maxRepairs ∧ readings ≤ repairs + 1 ∧
      ∀ outcome, result = .ok outcome →
        outcome.repairAttempts = p.state.attempt + repairs ∧ readings = repairs + 1 := by
  induction h with
  | broken validated =>
    obtain ⟨made, hmade, htally, -⟩ := tally_validate validated
    exact ⟨made, 0, 1, hmade, htally, Nat.zero_le _, Nat.le_refl _, fun _ h => nomatch h⟩
  | clean validated | exhausted validated _ _ =>
    obtain ⟨made, hmade, htally, -⟩ := tally_validate validated
    refine ⟨made, 0, 1, hmade, htally, Nat.zero_le _, Nat.le_refl _, ?_⟩
    rintro outcome ⟨⟩
    exact ⟨rfl, rfl⟩
  | unrepaired validated _ allowed _ =>
    obtain ⟨made, rfl, htally, -⟩ := tally_validate validated
    have hleft := (RetryState.canRepair_iff _ _).mp allowed
    refine ⟨made ++ [_], 1, 1, List.append_assoc _ _ _, htally.append ⟨rfl, rfl, rfl⟩, hleft,
      by omega, fun _ h => nomatch h⟩
  | @repaired p _ _ _ found code _ validated _ allowed _ _ ih =>
    obtain ⟨made, rfl, htally, -⟩ := tally_validate validated
    obtain ⟨more, repairs, readings, rfl, hmore, hrepairs, hreadings, houtcome⟩ := ih
    have hrepair : Tally [.repair ((p.observe found).context target useCase)] 0 1 0 :=
      ⟨rfl, rfl, rfl⟩
    have hless := p.repairsLeft_accept_lt target code allowed
    refine ⟨_, 0 + 1 + repairs, 1 + 0 + readings, ?_, (htally.append hrepair).append hmore,
      by omega, by omega, ?_⟩
    · simp only [List.append_assoc]
    · intro outcome hok
      obtain ⟨hattempts, hall⟩ := houtcome outcome hok
      rw [Progress.state_accept] at hattempts
      simp only [Progress.observe, RetryState.observe, RetryState.advance] at hattempts
      omega

end Synthesizer

/-! ## 2. Passes -/

/-- A pass of validation: what was validated, what was found, and the calls before and after it. -/
structure Pass where
  sources : SourceSet
  code : String
  found : List Diagnostic
  before : List Call
  after : List Call

namespace Pass

/-- The pass is what the validation makes of the code and the sources. -/
def IsMadeBy (s : Synthesizer) (target : Target) (p : Pass) : Prop :=
  s.validate target p.sources p.code p.before = (.ok p.found, p.after)

/-- Something was found in the first pass, and a repair with its code and its findings is all that
is asked for before the second one. That is about the code of the answer or, without one, about the
same code. -/
def RepairedInto (s : Synthesizer) (p q : Pass) : Prop :=
  p.found ≠ [] ∧
    ∃ context : RepairContext, context.sources = p.sources ∧ context.generated.code = p.code ∧
      context.diagnostics = p.found ∧
      ∃ answer, s.generator.repair p.after context = .ok answer ∧ q.code = answer.getD p.code ∧
        q.before = p.after ++ [.repair context]

/-- Passes with one repair between each two of them, of which the last one gives the outcome. -/
structure Row (s : Synthesizer) (target : Target) (passes : List Pass) (outcome : GenerationOutcome)
    (after : List Call) : Prop where
  made : ∀ p ∈ passes, p.IsMadeBy s target
  alternate : passes.IsChain (RepairedInto s)
  last : ∃ p, passes.getLast? = some p ∧ p.code = outcome.code ∧ p.found = outcome.remaining ∧
    p.after = after

theorem Row.single {s : Synthesizer} {target : Target} {p : Pass} {outcome : GenerationOutcome}
    (hmade : p.IsMadeBy s target) (hcode : p.code = outcome.code)
    (hfound : p.found = outcome.remaining) : Row s target [p] outcome p.after := by
  refine ⟨?_, .singleton p, p, rfl, hcode, hfound, rfl⟩
  intro q hq
  obtain rfl := List.mem_singleton.mp hq
  exact hmade

theorem Row.cons {s : Synthesizer} {target : Target} {p q : Pass} {rest : List Pass}
    {outcome : GenerationOutcome} {after : List Call} (hmade : p.IsMadeBy s target)
    (hrepaired : p.RepairedInto s q) (hrow : Row s target (q :: rest) outcome after) :
    Row s target (p :: q :: rest) outcome after := by
  refine ⟨?_, .cons_cons hrepaired hrow.alternate, hrow.last⟩
  intro q' hq'
  obtain rfl | hq' := List.mem_cons.mp hq'
  · exact hmade
  · exact hrow.made q' hq'

end Pass

namespace Synthesizer

variable {s : Synthesizer} {target : Target} {useCase : String}

/-- A loop that comes to an outcome is a row of passes, the first of which is about the code that
the loop starts with. -/
theorem Converges.row {p : Progress} {before after : List Call} {outcome : GenerationOutcome}
    (h : s.Converges target useCase p before (.ok outcome) after) :
    ∃ first rest, Pass.Row s target (first :: rest) outcome after ∧ first.before = before ∧
      first.code = p.generated.code ∧ outcome.repairAttempts = p.state.attempt + rest.length := by
  generalize hresult : Except.ok outcome = result at h
  induction h with
  | broken _ | unrepaired _ _ _ _ => exact nomatch hresult
  | @clean p before after validated =>
    cases hresult
    exact ⟨⟨p.sources, p.generated.code, [], before, after⟩, [], .single validated rfl rfl, rfl,
      rfl, rfl⟩
  | @exhausted p before after found validated _ _ =>
    cases hresult
    exact ⟨⟨p.sources, p.generated.code, found, before, after⟩, [], .single validated rfl rfl, rfl,
      rfl, rfl⟩
  | @repaired p before middle after found code _ validated nonempty _ answer _ ih =>
    obtain ⟨second, rest, hrow, hbefore, hcode, hattempts⟩ := ih hresult
    let first : Pass := ⟨p.sources, p.generated.code, found, before, middle⟩
    have hrepaired : first.RepairedInto s second := by
      refine ⟨nonempty, _, rfl, rfl, rfl, code, answer, ?_, hbefore⟩
      rw [hcode]
      cases code <;> rfl
    refine ⟨first, second :: rest, .cons validated hrepaired hrow, rfl, rfl, ?_⟩
    rw [hattempts, Progress.state_accept, List.length_cons]
    simp only [Progress.observe, RetryState.observe, RetryState.advance]
    omega

/-- A loop comes to an outcome with nothing left to be said, or with no repair left. -/
theorem Converges.stops {p : Progress} {before after : List Call} {outcome : GenerationOutcome}
    (h : s.Converges target useCase p before (.ok outcome) after) :
    outcome.remaining = [] ∨ s.maxRepairs ≤ outcome.repairAttempts := by
  generalize hresult : Except.ok outcome = result at h
  induction h with
  | broken _ | unrepaired _ _ _ _ => exact nomatch hresult
  | clean _ =>
    cases hresult
    exact .inl rfl
  | exhausted _ _ ceiling =>
    cases hresult
    rw [RetryState.canRepair, decide_eq_false_iff_not, Nat.not_lt] at ceiling
    exact .inr ceiling
  | repaired _ _ _ _ _ ih => exact ih hresult

end Synthesizer

/-! ## 3. Runs -/

/-- What can be asked for. -/
inductive Task where
  | function (request : GenerationRequest)
  | constant (natural : Expr) (document : String) (model : SemanticModel) (sources : SourceSet)

def Task.target : Task → Target
  | function request => .function request
  | constant natural document model _ => .constant natural document model

namespace Synthesizer

def carryOut (s : Synthesizer) : Task → Run GenerationOutcome
  | .function request => s.generateFunction request
  | .constant natural document model sources => s.generateConstant natural document model sources

/-- A task is refused before anything is called, or is a synthesis. -/
theorem carryOut_cases {s : Synthesizer} {task : Task} {before after : List Call}
    {result : Result GenerationOutcome} (h : s.carryOut task before = (result, after)) :
    (∃ failure, result = .error failure ∧ after = before) ∨
      ∃ useCase sources, s.synthesize task.target useCase sources before = (result, after) := by
  cases task with
  | function request =>
    obtain ⟨failure, hvalid, rfl⟩ | ⟨_, middle, hvalid, h⟩ := Run.bind_cases h
    · exact .inl ⟨failure, rfl, (Prod.mk.inj hvalid).2.symm⟩
    · obtain ⟨-, rfl⟩ := Prod.mk.inj hvalid
      exact .inr ⟨_, _, h⟩
  | constant natural document model sources =>
    obtain ⟨failure, hparts, rfl⟩ | ⟨parts, middle, hparts, h⟩ := Run.bind_cases h
    · exact .inl ⟨failure, rfl, (Prod.mk.inj hparts).2.symm⟩
    obtain ⟨-, rfl⟩ := Prod.mk.inj hparts
    obtain ⟨failure, htype, rfl⟩ | ⟨type, middle, htype, h⟩ := Run.bind_cases h
    · exact .inl ⟨failure, rfl, (Prod.mk.inj htype).2.symm⟩
    · obtain ⟨-, rfl⟩ := Prod.mk.inj htype
      exact .inr ⟨_, _, h⟩

/-- What no run exceeds: one generation, as many repairs as are allowed, and one validation more
than repairs. -/
def RunBound (s : Synthesizer) (before after : List Call) : Prop :=
  ∃ made generations repairs readings, after = before ++ made ∧
    Tally made generations repairs readings ∧
    generations ≤ 1 ∧ repairs ≤ s.maxRepairs ∧ readings ≤ repairs + 1

/-- What a run that comes to an outcome has done. -/
structure RunLaw (s : Synthesizer) (target : Target) (before : List Call)
    (outcome : GenerationOutcome) (after : List Call) (passes : List Pass) : Prop where
  /-- The code is generated first, and the first pass follows at once and is about it. -/
  generated : ∃ useCase sources g first, s.generator.generate before useCase sources = .ok g ∧
    passes.head? = some first ∧ first.code = g.code ∧
    first.before = before ++ [.generate useCase sources]
  row : Pass.Row s target passes outcome after
  /-- In a pass one code is read and nothing is asked for. What is found are the errors of the host
  and after them the findings of the vetting, each message once. -/
  quiet : ∀ p ∈ passes, ∃ made, p.after = p.before ++ made ∧ Tally made 0 0 1 ∧
    Finding s p.before p.sources p.code target p.found made
  passes_length : passes.length = outcome.repairAttempts + 1
  attempts_le : outcome.repairAttempts ≤ s.maxRepairs
  stops : outcome.remaining = [] ∨ outcome.repairAttempts = s.maxRepairs
  calls : ∃ made, after = before ++ made ∧
    Tally made 1 outcome.repairAttempts (outcome.repairAttempts + 1)

theorem runBound_of_synthesize {s : Synthesizer} {target : Target} {useCase : String}
    {sources : SourceSet} {before after : List Call} {result : Result GenerationOutcome}
    (h : s.synthesize target useCase sources before = (result, after)) :
    s.RunBound before after := by
  obtain ⟨failure, -, -, rfl⟩ | ⟨g, -, hloop⟩ := synthesize_cases h
  · exact ⟨[_], 1, 0, 0, rfl, ⟨rfl, rfl, rfl⟩, Nat.le_refl 1, Nat.zero_le _, Nat.zero_le _⟩
  · obtain ⟨made, repairs, readings, rfl, htally, hrepairs, hreadings, -⟩ := hloop.tally
    have hgenerate : Tally [.generate useCase sources] 1 0 0 := ⟨rfl, rfl, rfl⟩
    refine ⟨_, 1 + 0, 0 + repairs, 0 + readings, List.append_assoc _ _ _,
      hgenerate.append htally, Nat.le_refl 1, ?_, ?_⟩
    · rw [RetryState.repairsLeft] at hrepairs
      omega
    · omega

theorem runLaw_of_synthesize {s : Synthesizer} {target : Target} {useCase : String}
    {sources : SourceSet} {before after : List Call} {outcome : GenerationOutcome}
    (h : s.synthesize target useCase sources before = (.ok outcome, after)) :
    ∃ passes, s.RunLaw target before outcome after passes := by
  obtain ⟨failure, -, herror, -⟩ | ⟨g, hgenerate, hloop⟩ := synthesize_cases h
  · exact nomatch herror
  obtain ⟨first, rest, hrow, hbefore, hcode, hattempts⟩ := hloop.row
  obtain ⟨made, repairs, readings, hmade, htally, hrepairs, -, hcounts⟩ := hloop.tally
  obtain ⟨hrepaired, hread⟩ := hcounts outcome rfl
  simp only [RetryState.start, RetryState.repairsLeft, Nat.zero_add, Nat.sub_zero]
    at hattempts hrepairs hrepaired
  have hgeneration : Tally [.generate useCase sources] 1 0 0 := ⟨rfl, rfl, rfl⟩
  refine ⟨first :: rest, ⟨useCase, sources, g, first, hgenerate, rfl, hcode, hbefore⟩, hrow,
    fun p hp => ?_, ?_, ?_, ?_, ?_⟩
  · obtain ⟨made, hmade, htally, hfound⟩ := tally_validate (hrow.made p hp)
    exact ⟨made, hmade, htally, hfound _ rfl⟩
  · rw [hattempts, List.length_cons]
  · omega
  · obtain hnil | hceiling := hloop.stops
    · exact .inl hnil
    · exact .inr (by omega)
  · refine ⟨_, by rw [hmade, List.append_assoc], ?_⟩
    have htotal := hgeneration.append htally
    rw [Nat.zero_add, Nat.zero_add, hread, ← hrepaired] at htotal
    exact htotal

/-- The law of every run: its loop comes to an end from wherever it stands, the calls are bounded,
and an outcome is the end of a row of passes. -/
theorem run_law (s : Synthesizer) (task : Task) (before : List Call) :
    (∀ useCase p calls, ∃ result after, s.Converges task.target useCase p calls result after) ∧
    ∃ result after, s.carryOut task before = (result, after) ∧ s.RunBound before after ∧
      ∀ outcome, result = .ok outcome →
        ∃ passes, s.RunLaw task.target before outcome after passes := by
  have hrun : s.carryOut task before =
      ((s.carryOut task before).1, (s.carryOut task before).2) := rfl
  refine ⟨fun useCase p calls => ⟨_, _, converge_eq_iff.mp rfl⟩, _, _, hrun, ?_, ?_⟩
  · obtain ⟨failure, -, hafter⟩ | ⟨useCase, sources, h⟩ := carryOut_cases hrun
    · rw [hafter]
      exact ⟨[], 0, 0, 0, (List.append_nil _).symm, ⟨rfl, rfl, rfl⟩, Nat.zero_le _, Nat.zero_le _,
        Nat.zero_le _⟩
    · exact runBound_of_synthesize h
  · intro outcome hok
    obtain ⟨failure, herror, -⟩ | ⟨useCase, sources, h⟩ := carryOut_cases hrun
    · rw [hok] at herror
      exact nomatch herror
    · rw [hok] at h
      exact runLaw_of_synthesize h

/-! A run with one repair, in which the first code cannot be read. -/

/-- Writes `1 +` and, when asked for a repair, `1`. -/
def onceWrong : Generator where
  name := "once wrong"
  generate _ _ _ := .ok ⟨"1 +", none⟩
  requestRepair _ _ := .ok ""
  repair _ _ := .ok (some "1")

/-- Reads `1` as an expression, and finds an operand missing in any other code. -/
def numeralHost : Host where
  parseDeclaration _ _ := .error (.parse "not a declaration")
  parseExpression _ code :=
    .ok ⟨.mk (.literal .numeric) code ⟨⟨0, 0⟩, ⟨0, 1⟩⟩,
      if code = "1" then [] else [⟨.error, "missing operand", none, none⟩]⟩
  compile _ _ _ := .error (.parse "nothing to compile")

def intModel : SemanticModel :=
  { SemanticModel.empty with expectedType := fun _ => some ⟨"int"⟩ }

def intTask : Task :=
  .constant (.mk (.natural []) "const natural {}" ⟨⟨3, 8⟩, ⟨3, 24⟩⟩) "main.bal" intModel .empty

/-- What is wrong with a code unless it is `1`. -/
def operandErrors (code : String) : List HostDiagnostic :=
  if code = "1" then [] else [⟨.error, "missing operand", none, none⟩]

/-- Reads every code as a module without members, and compiles the file of the generated code. -/
def operandHost : Host where
  parseDeclaration _ _ := .ok ⟨⟨[], []⟩, []⟩
  parseExpression _ _ := .error (.parse "not an expression")
  compile _ project disk :=
    (project.readSource disk "generated/functions_g.bal").map fun code =>
      ⟨operandErrors code, .empty⟩

def sumRequest : GenerationRequest :=
  ⟨"f", "g", "Add the numbers.", .empty, ⟨"acme", "calc", "0.1.0"⟩⟩

/-- In a place that is empty a project is built, unless something is in the way. -/
theorem exists_build_of_clear {h : Host} {sources : SourceSet}
    (hplace : ∀ calls, h.scratch calls = .empty)
    (hclear : Project.Clear Scratch.empty.disk Scratch.empty.directory Scratch.empty.name sources)
    (module : ModuleDescriptor) :
    ∃ project disk, ∀ calls, h.build calls module sources = .ok (project, disk) :=
  Host.exists_build_eq_ok hplace
    (Project.exists_build_eq_ok (Project.freshName_tmp rfl) hclear module)

/-- The sources of a validation of a code. -/
def sumSources (code : String) : SourceSet := SourceSet.push ⟨[]⟩ ⟨"generated/functions_g.bal", code⟩

/-- Nothing is in the way of the file of the generated code. -/
theorem clear_sumSources (code : String) : Project.Clear Scratch.empty.disk
    Scratch.empty.directory Scratch.empty.name (sumSources code) := by
  have hclear : Project.Clear Scratch.empty.disk Scratch.empty.directory Scratch.empty.name
      (sumSources "") := ⟨⟨_, rfl⟩, by decide, by decide, by decide +kernel, by decide⟩
  exact hclear.mono (List.Subset.refl _)

theorem validate_operandHost (code : String) (calls : List Call) :
    ∃ after, validate ⟨onceWrong, operandHost, 1⟩ (.function sumRequest) (sumSources code) code
      calls = (.ok ((operandErrors code).map Diagnostic.ofHost), after) := by
  obtain ⟨project, disk, hbuild⟩ : ∃ project disk, ∀ calls,
      operandHost.build calls sumRequest.targetModule (sumSources code) = .ok (project, disk) :=
    exists_build_of_clear (fun _ => rfl) (clear_sumSources code) _
  have hlast : (sumSources code).files = [] ++ [⟨"generated/functions_g.bal", code⟩] := rfl
  have hread := Project.readSource_build_last hlast (Host.build_eq_ok_iff.mp (hbuild []))
  have hparse : operandHost.parseDeclaration calls code = .ok ⟨⟨[], []⟩, []⟩ := rfl
  have hcompile : operandHost.compile (calls ++ [.parseDeclaration code,
      .build sumRequest.targetModule (sumSources code)]) project disk =
      .ok ⟨operandErrors code, .empty⟩ := by
    simp only [operandHost, hread]
    rfl
  have hfinding : Finding ⟨onceWrong, operandHost, 1⟩ calls (sumSources code) code
      (.function sumRequest) _ _ := .function hparse (hbuild _) hcompile
  -- in a module without members the vetting finds nothing
  have hmerge : Diagnostic.merge (((operandErrors code).filter HostDiagnostic.isError).map
      Diagnostic.ofHost) [] = (operandErrors code).map Diagnostic.ofHost := by
    unfold operandErrors
    split <;> rfl
  rw [← hmerge]
  exact ⟨_, hfinding.validate_eq⟩

/-- The first code does not compile, and the repaired one does. -/
theorem run_law_of_one_repair :
    ∃ after passes,
      carryOut ⟨onceWrong, operandHost, 1⟩ (.function sumRequest) [] =
        (.ok ⟨"1", none, 1, []⟩, after) ∧
      RunLaw ⟨onceWrong, operandHost, 1⟩ (.function sumRequest) [] ⟨"1", none, 1, []⟩ after
        passes := by
  obtain ⟨-, result, after, hrun, -, hlaw⟩ :=
    run_law ⟨onceWrong, operandHost, 1⟩ (.function sumRequest) []
  have hloop (useCase : String) (calls : List Call) : ∃ after,
      Converges ⟨onceWrong, operandHost, 1⟩ (.function sumRequest) useCase
        ⟨sumSources "1 +", ⟨"1 +", none⟩, .start⟩ calls (.ok ⟨"1", none, 1, []⟩) after := by
    obtain ⟨middle, hwrong⟩ := validate_operandHost "1 +" calls
    obtain ⟨after, hright⟩ := validate_operandHost "1" (middle ++ [.repair _])
    exact ⟨after, .repaired hwrong (by decide) rfl rfl (.clean hright)⟩
  let useCase := Prompt.functionUseCase sumRequest.annotatedSymbol sumRequest.generatedSymbol
    sumRequest.prompt
  obtain ⟨after', hconverges⟩ := hloop useCase [.generate useCase sumRequest.promptContext]
  have hvalid : Run.ofResult sumRequest.validate [] = (.ok (), []) := rfl
  have hgenerate : generate ⟨onceWrong, operandHost, 1⟩ useCase sumRequest.promptContext [] =
      (.ok ⟨"1 +", none⟩, [.generate useCase sumRequest.promptContext]) := rfl
  have hrun' : carryOut ⟨onceWrong, operandHost, 1⟩ (.function sumRequest) [] =
      (.ok ⟨"1", none, 1, []⟩, after') :=
    (Run.bind_of_ok hvalid).trans ((Run.bind_of_ok hgenerate).trans hconverges.converge_eq)
  obtain ⟨rfl, rfl⟩ := Prod.mk.inj (hrun.symm.trans hrun')
  obtain ⟨passes, hpasses⟩ := hlaw _ rfl
  exact ⟨after, passes, hrun, hpasses⟩

end Synthesizer

end GuidedSynthesis
