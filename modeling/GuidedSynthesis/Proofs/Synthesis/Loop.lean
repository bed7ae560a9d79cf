import GuidedSynthesis.Synthesis
/-!
The calls of a validation, and the loop of validation and repair as a relation.

A validation makes its calls in one order and stops at the first that fails, so there are few lists
of calls that it can make (`Validation`), and one way in which it finds something (`Finding`).
`calls_validate` says so of every validation.

`Converges p before result after` says how the loop goes that starts with the progress `p` after the
calls `before`: one case for each way in which a turn ends the loop, and one for a repair after
which the loop goes on. Every loop goes in one of these ways, and in no other (`converge_eq_iff`). A
derivation is finite, so a fact about all loops is proved by induction on it, with one case per
turn. `synthesize_cases` brings in what comes before the loop.
-/

namespace GuidedSynthesis.Synthesizer

/-! ## 1. One validation -/

/-- The calls that a validation of a code with some sources can make after some others. -/
inductive Validation (s : Synthesizer) (before : List Call) (sources : SourceSet) (code : String) :
    Target → List Call → Prop where
  | expression {natural : Expr} {document : String} {model : SemanticModel} :
      Validation s before sources code (.constant natural document model) [.parseExpression code]
  /-- The code cannot be read. -/
  | unread {request : GenerationRequest} :
      Validation s before sources code (.function request) [.parseDeclaration code]
  /-- The project cannot be built. -/
  | unbuilt {request : GenerationRequest} :
      Validation s before sources code (.function request)
        [.parseDeclaration code, .build request.targetModule sources]
  | compiled {request : GenerationRequest} {project : Project} {disk : Disk}
      (built : s.host.build (before ++ [.parseDeclaration code]) request.targetModule sources =
        .ok (project, disk)) :
      Validation s before sources code (.function request)
        [.parseDeclaration code, .build request.targetModule sources, .compile project disk]

/-- What a validation finds in which no call fails, and the calls that it makes after some others:
first the errors of the host, and then what the vetting has to say of what was read. -/
inductive Finding (s : Synthesizer) (before : List Call) (sources : SourceSet) (code : String) :
    Target → List Diagnostic → List Call → Prop where
  | expression {natural : Expr} {document : String} {model : SemanticModel} {parsed : Parsed Expr}
      (read : s.host.parseExpression before code = .ok parsed) :
      Finding s before sources code (.constant natural document model)
        (Diagnostic.merge
          ((parsed.diagnostics.filter HostDiagnostic.isError).map fun d =>
            Diagnostic.errorAt document natural.range (d.message ++ "."))
          (Constancy.vet model document parsed.node))
        [.parseExpression code]
  | function {request : GenerationRequest} {parsed : Parsed ModulePart} {project : Project}
      {disk : Disk} {compilation : Compilation}
      (read : s.host.parseDeclaration before code = .ok parsed)
      (built : s.host.build (before ++ [.parseDeclaration code]) request.targetModule sources =
        .ok (project, disk))
      (compiled : s.host.compile (before ++ [.parseDeclaration code,
        .build request.targetModule sources]) project disk = .ok compilation) :
      Finding s before sources code (.function request)
        (Diagnostic.merge (compilation.errors.map Diagnostic.ofHost)
          (Structure.vet ⟨compilation.model, request.documentName,
            request.targetModule.organization⟩ parsed.node))
        [.parseDeclaration code, .build request.targetModule sources, .compile project disk]

variable {s : Synthesizer} {target : Target} {sources : SourceSet} {code : String}
  {before after : List Call}

theorem Finding.validate_eq {found : List Diagnostic} {made : List Call}
    (h : Finding s before sources code target found made) :
    s.validate target sources code before = (.ok found, before ++ made) := by
  cases h with
  | expression read =>
    have hparsed : s.parseExpression code before = (.ok _, before ++ [.parseExpression code]) :=
      Prod.ext read rfl
    exact Run.bind_of_ok hparsed
  | @function request _ project disk _ read built compiled =>
    have hparsed : s.parseDeclaration code before = (.ok _, before ++ [.parseDeclaration code]) :=
      Prod.ext read rfl
    have hbuilt : s.build request.targetModule sources (before ++ [.parseDeclaration code]) =
        (.ok (project, disk),
          before ++ [.parseDeclaration code, .build request.targetModule sources]) :=
      Prod.ext built (List.append_assoc _ _ _)
    have hcompiled : s.compile project disk (before ++ [.parseDeclaration code,
        .build request.targetModule sources]) = (.ok _, before ++ [.parseDeclaration code,
          .build request.targetModule sources, .compile project disk]) :=
      Prod.ext compiled (List.append_assoc _ _ _)
    rw [validate, validateFunction, Run.bind_of_ok hparsed, Run.bind_of_ok hbuilt]
    exact Run.bind_of_ok hcompiled

/-- A validation makes the calls that it can make; if it fails, so does the last of them, and else
it finds what is to be found. -/
theorem calls_validate {result : Result (List Diagnostic)}
    (h : s.validate target sources code before = (result, after)) :
    ∃ made, after = before ++ made ∧ Validation s before sources code target made ∧
      ∀ found, result = .ok found → Finding s before sources code target found made := by
  cases target with
  | constant natural document model =>
    refine ⟨[.parseExpression code], ?_⟩
    obtain ⟨failure, hparse, rfl⟩ | ⟨parsed, middle, hparse, hrest⟩ := Run.bind_cases h
    · obtain ⟨-, rfl⟩ := Prod.mk.inj hparse
      exact ⟨rfl, .expression, fun _ hok => nomatch hok⟩
    · obtain ⟨read, rfl⟩ := Prod.mk.inj hparse
      obtain ⟨rfl, rfl⟩ := Prod.mk.inj hrest
      refine ⟨rfl, .expression, ?_⟩
      rintro found ⟨⟩
      exact .expression read
  | function request =>
    obtain ⟨failure, hparse, rfl⟩ | ⟨parsed, middle, hparse, h⟩ := Run.bind_cases h
    · obtain ⟨-, rfl⟩ := Prod.mk.inj hparse
      exact ⟨_, rfl, .unread, fun _ hok => nomatch hok⟩
    obtain ⟨read, rfl⟩ := Prod.mk.inj hparse
    obtain ⟨failure, hbuild, rfl⟩ | ⟨⟨project, disk⟩, middle, hbuild, h⟩ := Run.bind_cases h
    · obtain ⟨-, rfl⟩ := Prod.mk.inj hbuild
      exact ⟨_, List.append_assoc _ _ _, .unbuilt, fun _ hok => nomatch hok⟩
    obtain ⟨built, rfl⟩ := Prod.mk.inj hbuild
    refine ⟨[.parseDeclaration code, .build request.targetModule sources, .compile project disk],
      ?_⟩
    have hcalls : before ++ [.parseDeclaration code] ++ [.build request.targetModule sources] =
        before ++ [.parseDeclaration code, .build request.targetModule sources] :=
      List.append_assoc _ _ _
    obtain ⟨failure, hcompile, rfl⟩ | ⟨compilation, middle, hcompile, h⟩ := Run.bind_cases h
    · obtain ⟨-, rfl⟩ := Prod.mk.inj hcompile
      refine ⟨?_, .compiled built, fun _ hok => nomatch hok⟩
      rw [hcalls, List.append_assoc]
      rfl
    · obtain ⟨compiled, rfl⟩ := Prod.mk.inj hcompile
      obtain ⟨rfl, rfl⟩ := Prod.mk.inj h
      refine ⟨?_, .compiled built, ?_⟩
      · rw [hcalls, List.append_assoc]
        rfl
      · rintro found ⟨⟩
        rw [hcalls] at compiled
        exact .function read built compiled

/-! ## 2. The loop -/

variable (s : Synthesizer) (target : Target) (useCase : String)

/-- The loop from a progress and the calls before it to a result and the calls after it. -/
inductive Converges : Progress → List Call → Result GenerationOutcome → List Call → Prop where
  /-- The validation fails. -/
  | broken {p : Progress} {before after : List Call} {failure : Failure}
      (validated : s.validate target p.sources p.generated.code before = (.error failure, after)) :
      Converges p before (.error failure) after
  /-- The validation finds nothing. -/
  | clean {p : Progress} {before after : List Call}
      (validated : s.validate target p.sources p.generated.code before = (.ok [], after)) :
      Converges p before (.ok (p.observe []).outcome) after
  /-- No repair is left. -/
  | exhausted {p : Progress} {before after : List Call} {found : List Diagnostic}
      (validated : s.validate target p.sources p.generated.code before = (.ok found, after))
      (nonempty : found ≠ [])
      (ceiling : (p.observe found).state.canRepair s.maxRepairs = false) :
      Converges p before (.ok (p.observe found).outcome) after
  /-- The repair fails. -/
  | unrepaired {p : Progress} {before middle : List Call} {found : List Diagnostic}
      {failure : Failure}
      (validated : s.validate target p.sources p.generated.code before = (.ok found, middle))
      (nonempty : found ≠ [])
      (allowed : (p.observe found).state.canRepair s.maxRepairs = true)
      (answer : s.generator.repair middle ((p.observe found).context target useCase) =
        .error failure) :
      Converges p before (.error failure)
        (middle ++ [.repair ((p.observe found).context target useCase)])
  /-- The loop goes on with what the repair gave. -/
  | repaired {p : Progress} {before middle after : List Call} {found : List Diagnostic}
      {code : Option String} {result : Result GenerationOutcome}
      (validated : s.validate target p.sources p.generated.code before = (.ok found, middle))
      (nonempty : found ≠ [])
      (allowed : (p.observe found).state.canRepair s.maxRepairs = true)
      (answer : s.generator.repair middle ((p.observe found).context target useCase) = .ok code)
      (rest : Converges ((p.observe found).accept target code)
        (middle ++ [.repair ((p.observe found).context target useCase)]) result after) :
      Converges p before result after

theorem converges_of_converge (p : Progress) (before after : List Call)
    (result : Result GenerationOutcome)
    (h : s.converge target useCase p before = (result, after)) :
    s.Converges target useCase p before result after := by
  -- a repair leaves fewer repairs
  induction hleft : p.state.repairsLeft s.maxRepairs using Nat.strongRecOn
    generalizing p before with
  | _ n ih =>
    subst hleft
    rw [converge] at h
    obtain ⟨failure, validated, rfl⟩ | ⟨found, middle, validated, h⟩ := Run.bind_cases h
    · exact .broken validated
    · split at h
      · rename_i hempty
        obtain rfl := List.isEmpty_iff.mp hempty
        obtain ⟨rfl, rfl⟩ := Prod.mk.inj h
        exact .clean validated
      · rename_i hempty
        have nonempty : found ≠ [] := fun hnil => hempty (List.isEmpty_iff.mpr hnil)
        split at h
        · rename_i allowed
          obtain ⟨failure, hanswer, rfl⟩ | ⟨code, next, hanswer, h⟩ := Run.bind_cases h
          · obtain ⟨answer, rfl⟩ := Prod.mk.inj hanswer
            exact .unrepaired validated nonempty allowed answer
          · obtain ⟨answer, rfl⟩ := Prod.mk.inj hanswer
            exact .repaired validated nonempty allowed answer
              (ih _ (p.repairsLeft_accept_lt target code allowed) _ _ h rfl)
        · rename_i ceiling
          obtain ⟨rfl, rfl⟩ := Prod.mk.inj h
          exact .exhausted validated nonempty (Bool.eq_false_iff.mpr ceiling)

variable {s target useCase}

theorem Converges.converge_eq {p : Progress} {before after : List Call}
    {result : Result GenerationOutcome} (h : s.Converges target useCase p before result after) :
    s.converge target useCase p before = (result, after) := by
  induction h with
  | broken validated => rw [converge, Run.bind_of_error validated]
  | clean validated =>
    rw [converge, Run.bind_of_ok validated]
    rfl
  | exhausted validated nonempty ceiling =>
    rw [converge, Run.bind_of_ok validated, if_neg (by simpa using nonempty),
      if_neg (by simp [ceiling])]
    rfl
  | unrepaired validated nonempty allowed answer =>
    rw [converge, Run.bind_of_ok validated, if_neg (by simpa using nonempty), if_pos allowed]
    exact Run.bind_of_error (Prod.ext answer rfl)
  | repaired validated nonempty allowed answer _ ih =>
    rw [converge, Run.bind_of_ok validated, if_neg (by simpa using nonempty), if_pos allowed, ← ih]
    exact Run.bind_of_ok (Prod.ext answer rfl)

/-- The relation is the graph of the loop. -/
theorem converge_eq_iff {p : Progress} {before after : List Call}
    {result : Result GenerationOutcome} :
    s.converge target useCase p before = (result, after) ↔
      s.Converges target useCase p before result after :=
  ⟨s.converges_of_converge target useCase p before after result, Converges.converge_eq⟩

/-! ## 3. What comes before the loop -/

/-- A synthesis fails with the first code, or goes into the loop with it. -/
theorem synthesize_cases {sources : SourceSet} {before after : List Call}
    {result : Result GenerationOutcome}
    (h : s.synthesize target useCase sources before = (result, after)) :
    (∃ failure, s.generator.generate before useCase sources = .error failure ∧
        result = .error failure ∧ after = before ++ [.generate useCase sources]) ∨
      ∃ g, s.generator.generate before useCase sources = .ok g ∧
        s.Converges target useCase ⟨target.working sources g.code, g, .start⟩
          (before ++ [.generate useCase sources]) result after := by
  obtain ⟨failure, hgenerate, rfl⟩ | ⟨g, middle, hgenerate, h⟩ := Run.bind_cases h
  · obtain ⟨hanswer, rfl⟩ := Prod.mk.inj hgenerate
    exact .inl ⟨failure, hanswer, rfl, rfl⟩
  · obtain ⟨hanswer, rfl⟩ := Prod.mk.inj hgenerate
    exact .inr ⟨g, hanswer, converge_eq_iff.mp h⟩

end GuidedSynthesis.Synthesizer
