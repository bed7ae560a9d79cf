import GuidedSynthesis.Proofs.Synthesis.Passes
/-!
Which code is compiled.

A validation of a function reads the code and compiles a project with the code in a file of its own.
That this file holds the code which was read is true of the runs for which no context file is at its
path (`compiled_code`). If there is one, a repair goes to that file, which is written first, and
every validation compiles the code that was generated in the beginning:
`repaired_code_is_not_compiled` is such a run.

## How the proof goes

The file of the generated code is the last of the sources when the loop starts and stays the last,
so it is what is on disk in the end (`readSource_build_last`). What it holds is an invariant of the
loop (`GeneratedLast`); it is kept by a repair (`generatedLast_accept`), and each validation
compiles accordingly (`Validation.compiles`).
-/

namespace GuidedSynthesis

/-! ## 1. The file of the generated code -/

/-- What is in the file of the generated code when the first code was `first` and the code at hand
is `code`. -/
def GenerationRequest.compiledCode (r : GenerationRequest) (first code : String) : String :=
  if r.promptContext.holds r.generatedPath then first else code

/-- The sources are those of some context with the file of the generated code added at the end. The
context has a file at its path just when that of the request has one. -/
def GeneratedLast (r : GenerationRequest) (text : String) (sources : SourceSet) : Prop :=
  ∃ context : SourceSet, sources = context.push ⟨r.generatedPath, text⟩ ∧
    context.holds r.generatedPath = r.promptContext.holds r.generatedPath

theorem generatedLast_working (r : GenerationRequest) (code : String) :
    GeneratedLast r (r.compiledCode code code)
      ((Target.function r).working r.promptContext code) := by
  refine ⟨r.promptContext, ?_, rfl⟩
  rw [GenerationRequest.compiledCode, ite_self]
  rfl

/-- A repair keeps the file of the generated code last. -/
theorem generatedLast_accept {r : GenerationRequest} {first : String} {p : Progress}
    (h : GeneratedLast r (r.compiledCode first p.generated.code) p.sources)
    (repaired : Option String) :
    GeneratedLast r
      (r.compiledCode first (p.accept (.function r) repaired).generated.code)
      (p.accept (.function r) repaired).sources := by
  cases repaired with
  | none => exact h
  | some code =>
    obtain ⟨context, hsources, hholds⟩ := h
    show GeneratedLast r (r.compiledCode first code) (p.sources.replace r.generatedPath code)
    rw [hsources, GenerationRequest.compiledCode, GenerationRequest.compiledCode]
    by_cases hleft : r.promptContext.holds r.generatedPath = true
    · rw [if_pos hleft, if_pos hleft, SourceSet.replace_push_of_holds (hholds.trans hleft)]
      exact ⟨context.replace r.generatedPath code, rfl, by rw [SourceSet.holds_replace, hholds]⟩
    · rw [if_neg hleft, if_neg hleft]
      rw [Bool.not_eq_true] at hleft
      have hfree : context.holds (SourceFile.mk r.generatedPath p.generated.code).path = false :=
        hholds.trans hleft
      exact ⟨context, SourceSet.replace_push_of_not_holds hfree code, hholds⟩

/-! ## 2. Compilations among the calls -/

/-- Each compilation among the calls comes right after the reading of a code and the building of a
project, and the file of the generated code then holds what `text` says of that code. -/
def CompilesAs (r : GenerationRequest) (text : String → String) (calls : List Call) : Prop :=
  ∀ earlier project disk later, calls = earlier ++ .compile project disk :: later →
    ∃ started code sources,
      earlier = started ++ [.parseDeclaration code, .build r.targetModule sources] ∧
        project.readSource disk r.generatedPath = .ok (text code)

namespace CompilesAs

variable {r : GenerationRequest} {text : String → String}

theorem append {xs ys : List Call} (hx : CompilesAs r text xs) (hy : CompilesAs r text ys) :
    CompilesAs r text (xs ++ ys) := by
  intro earlier project disk later heq
  obtain ⟨rest, rfl, hrest⟩ | ⟨rest, rfl, hrest⟩ := List.append_eq_append_iff.mp heq
  · obtain ⟨started, code, sources, rfl, hread⟩ := hy rest project disk later hrest
    exact ⟨xs ++ started, code, sources, by rw [List.append_assoc], hread⟩
  · cases rest with
    | nil =>
      -- the second part would start with the compilation
      obtain ⟨started, code, sources, hnil, -⟩ := hy [] project disk later hrest.symm
      simp at hnil
    | cons call rest =>
      obtain ⟨rfl, -⟩ := List.cons.inj hrest
      exact hx earlier project disk rest rfl

/-- A call that compiles nothing. -/
theorem single {call : Call} (h : ∀ project disk, call ≠ .compile project disk) :
    CompilesAs r text [call] := by
  intro earlier project disk later heq
  have hmem : Call.compile project disk ∈ [call] := by
    rw [heq]
    exact List.mem_append_right _ List.mem_cons_self
  exact absurd (List.mem_singleton.mp hmem).symm (h project disk)

end CompilesAs

namespace Synthesizer

variable {s : Synthesizer} {useCase : String}

theorem Validation.compiles {r : GenerationRequest} {sources : SourceSet} {code : String}
    {text : String → String} {before made : List Call}
    (hsources : GeneratedLast r (text code) sources)
    (h : Validation s before sources code (.function r) made) : CompilesAs r text made := by
  have hparse : CompilesAs r text [.parseDeclaration code] := .single (by simp)
  have hbuild : CompilesAs r text [.build r.targetModule sources] := .single (by simp)
  cases h with
  | unread => exact hparse
  | unbuilt => exact hparse.append hbuild
  | compiled built =>
    rename_i project disk
    obtain ⟨context, rfl, -⟩ := hsources
    have hlast : (context.push ⟨r.generatedPath, text code⟩).files =
        context.files ++ [⟨r.generatedPath, text code⟩] := rfl
    have hread := Project.readSource_build_last hlast (Host.build_eq_ok_iff.mp built)
    intro earlier project' disk' later heq
    -- the compilation is the last of the three calls
    rcases earlier with _ | ⟨parse, _ | ⟨build, _ | ⟨call, rest⟩⟩⟩
    · exact nomatch heq
    · exact nomatch heq
    · simp only [List.cons_append, List.nil_append, List.cons.injEq, Call.compile.injEq] at heq
      obtain ⟨rfl, rfl, ⟨rfl, rfl⟩, -⟩ := heq
      exact ⟨[], code, _, rfl, hread⟩
    · simp at heq

/-- The compilations of a loop, as long as the file of the generated code is the last. -/
theorem Converges.compiles {r : GenerationRequest} {first : String} {p : Progress}
    {before after : List Call} {result : Result GenerationOutcome}
    (h : s.Converges (.function r) useCase p before result after)
    (hsources : GeneratedLast r (r.compiledCode first p.generated.code) p.sources) :
    ∃ made, after = before ++ made ∧ CompilesAs r (r.compiledCode first) made := by
  induction h with
  | broken validated | clean validated | exhausted validated _ _ =>
    obtain ⟨made, hmade, hcalls, -⟩ := calls_validate validated
    exact ⟨made, hmade, hcalls.compiles hsources⟩
  | unrepaired validated _ _ _ =>
    obtain ⟨made, rfl, hcalls, -⟩ := calls_validate validated
    exact ⟨_, List.append_assoc _ _ _, (hcalls.compiles hsources).append (.single (by simp))⟩
  | @repaired p _ _ _ found code _ validated _ _ _ _ ih =>
    obtain ⟨made, rfl, hcalls, -⟩ := calls_validate validated
    have hnext : GeneratedLast r _ ((p.observe found).accept (.function r) code).sources :=
      generatedLast_accept (p := p.observe found) hsources code
    obtain ⟨more, rfl, hmore⟩ := ih hnext
    have hrepair : CompilesAs r (r.compiledCode first)
        [.repair ((p.observe found).context (.function r) useCase)] := .single (by simp)
    refine ⟨_, ?_, ((hcalls.compiles hsources).append hrepair).append hmore⟩
    simp only [List.append_assoc]

/-! ## 3. Runs -/

/-- The prompt of a request. -/
def functionUseCase (r : GenerationRequest) : String :=
  Prompt.functionUseCase r.annotatedSymbol r.generatedSymbol r.prompt

/-- A run compiles nothing, or it has a first code and compiles as that code and those at hand say.
-/
theorem generateFunction_compiles {r : GenerationRequest} {before after : List Call}
    {result : Result GenerationOutcome} (h : s.generateFunction r before = (result, after)) :
    ∃ made, after = before ++ made ∧
      ((∀ project disk, .compile project disk ∉ made) ∨
        ∃ g, s.generator.generate before (functionUseCase r) r.promptContext = .ok g ∧
          CompilesAs r (r.compiledCode g.code) made) := by
  obtain ⟨failure, hvalid, -⟩ | ⟨_, middle, hvalid, h⟩ := Run.bind_cases h
  · obtain ⟨-, rfl⟩ := Prod.mk.inj hvalid
    exact ⟨[], (List.append_nil _).symm, .inl fun _ _ => List.not_mem_nil⟩
  obtain ⟨-, rfl⟩ := Prod.mk.inj hvalid
  obtain ⟨failure, -, -, rfl⟩ | ⟨g, hgenerate, hloop⟩ := synthesize_cases h
  · exact ⟨_, rfl, .inl fun _ _ => by simp⟩
  · obtain ⟨made, rfl, hmade⟩ := hloop.compiles (generatedLast_working r g.code)
    have hgeneration : CompilesAs r (r.compiledCode g.code)
        [.generate (functionUseCase r) r.promptContext] := .single (by simp)
    exact ⟨_, List.append_assoc _ _ _, .inr ⟨g, hgenerate, hgeneration.append hmade⟩⟩

/-- Each compilation of a run comes right after the reading of a code and the building of a project.
The file of the generated code then holds the code that was read, unless there is a context file at
its path: then it holds the code that was generated first. So it holds the code that was read
exactly if there is no such context file, or if that code is the first one. -/
theorem compiled_code (s : Synthesizer) (r : GenerationRequest) (before earlier later : List Call)
    (project : Project) (disk : Disk)
    (h : (s.generateFunction r before).2 = before ++ (earlier ++ .compile project disk :: later)) :
    ∃ started code sources g,
      earlier = started ++ [.parseDeclaration code, .build r.targetModule sources] ∧
      s.generator.generate before (functionUseCase r) r.promptContext = .ok g ∧
      project.readSource disk r.generatedPath =
        .ok (if r.promptContext.holds r.generatedPath then g.code else code) ∧
      (project.readSource disk r.generatedPath = .ok code ↔
        r.promptContext.holds r.generatedPath = false ∨ g.code = code) := by
  have hrun : s.generateFunction r before = ((s.generateFunction r before).1,
      before ++ (earlier ++ .compile project disk :: later)) := Prod.ext rfl h
  obtain ⟨made, hafter, hmade⟩ := generateFunction_compiles hrun
  obtain rfl := List.append_cancel_left hafter
  obtain hnone | ⟨g, hgenerate, hcompiles⟩ := hmade
  · exact absurd (List.mem_append_right _ List.mem_cons_self) (hnone project disk)
  · obtain ⟨started, code, sources, hearlier, hread⟩ := hcompiles earlier project disk later rfl
    refine ⟨started, code, sources, g, hearlier, hgenerate, hread, ?_⟩
    rw [hread, GenerationRequest.compiledCode, Except.ok.injEq]
    cases r.promptContext.holds r.generatedPath with
    | false => simp
    | true => simp

/-! A run in which a context file has the path of the generated code. -/

/-- A request with a file where the code of `g` goes. -/
def takenRequest : GenerationRequest :=
  ⟨"f", "g", "Add the numbers.", ⟨[⟨"generated/functions_g.bal", "B"⟩]⟩, ⟨"acme", "calc", "0.1.0"⟩⟩

/-- The sources of each validation. The code `A` was generated first; the repair `B` goes to the
context file, in which that is already. -/
def takenSources : SourceSet :=
  ⟨[⟨"generated/functions_g.bal", "B"⟩, ⟨"generated/functions_g.bal", "A"⟩]⟩

/-- Writes `A`, and `B` when asked for a repair; no code satisfies the host. -/
def repairedOnce : Synthesizer where
  generator := ⟨"A then B", fun _ _ _ => .ok ⟨"A", none⟩, fun _ _ => .ok "",
    fun _ _ => .ok (some "B")⟩
  host := {
    parseDeclaration := fun _ _ => .ok ⟨⟨[], []⟩, []⟩
    parseExpression := fun _ _ => .error (.parse "not an expression")
    compile := fun _ _ _ => .ok ⟨[⟨.error, "undefined symbol", none, none⟩], .empty⟩ }
  maxRepairs := 1

theorem build_takenSources : ∃ project disk, ∀ calls,
    repairedOnce.host.build calls takenRequest.targetModule takenSources = .ok (project, disk) := by
  have hclear := (clear_sumSources "").mono (by decide : takenSources.paths ⊆ _)
  exact exists_build_of_clear (fun _ => rfl) hclear takenRequest.targetModule

/-- What the host has to say. -/
def undefinedSymbol : Diagnostic := .unlocated "ERROR undefined symbol"

def takenPass (code : String) (project : Project) (disk : Disk) : List Call :=
  [.parseDeclaration code, .build takenRequest.targetModule takenSources, .compile project disk]

def takenContext : RepairContext :=
  ⟨.function "g", functionUseCase takenRequest, takenSources, ⟨"A", none⟩, [undefinedSymbol]⟩

section

variable {r : GenerationRequest} {sources : SourceSet} {project : Project} {disk : Disk}
  (hbuild : ∀ calls, repairedOnce.host.build calls r.targetModule sources = .ok (project, disk))
include hbuild

theorem validate_repairedOnce (code : String) (before : List Call) :
    repairedOnce.validate (.function r) sources code before =
      (.ok [undefinedSymbol], before ++
        [.parseDeclaration code, .build r.targetModule sources, .compile project disk]) := by
  have hparse : repairedOnce.host.parseDeclaration before code = .ok ⟨⟨[], []⟩, []⟩ := rfl
  have hcompile : repairedOnce.host.compile (before ++ [.parseDeclaration code,
      .build r.targetModule sources]) project disk =
      .ok ⟨[⟨.error, "undefined symbol", none, none⟩], .empty⟩ := rfl
  exact (Finding.function hparse (hbuild _) hcompile).validate_eq

variable {repaired : SourceSet} {project' : Project} {disk' : Disk}
  (hrepaired : sources.replace r.generatedPath "B" = repaired)
  (hbuild' : ∀ calls,
    repairedOnce.host.build calls r.targetModule repaired = .ok (project', disk'))
include hrepaired hbuild'

theorem converges_repairedOnce (calls : List Call) :
    repairedOnce.Converges (.function r) (functionUseCase r) ⟨sources, ⟨"A", none⟩, .start⟩ calls
      (.ok ⟨"B", none, 1, [undefinedSymbol]⟩)
      (calls ++ [.parseDeclaration "A", .build r.targetModule sources, .compile project disk] ++
        [.repair ⟨.function r.generatedSymbol, functionUseCase r, sources, ⟨"A", none⟩,
          [undefinedSymbol]⟩] ++
        [.parseDeclaration "B", .build r.targetModule repaired, .compile project' disk']) := by
  refine .repaired (validate_repairedOnce hbuild "A" calls) (by simp) rfl rfl ?_
  show repairedOnce.Converges _ _ ⟨sources.replace r.generatedPath "B", _, _⟩ _ _ _
  rw [hrepaired]
  exact .exhausted (validate_repairedOnce hbuild' "B" _) (by simp) rfl

/-- The calls of a run: each of the codes is read and compiled, with the sources of its turn. -/
theorem generateFunction_repairedOnce (hvalid : r.validate = .ok ())
    (hsources : (Target.function r).working r.promptContext "A" = sources) :
    (repairedOnce.generateFunction r []).2 =
      [.generate (functionUseCase r) r.promptContext,
        .parseDeclaration "A", .build r.targetModule sources, .compile project disk,
        .repair ⟨.function r.generatedSymbol, functionUseCase r, sources, ⟨"A", none⟩,
          [undefinedSymbol]⟩,
        .parseDeclaration "B", .build r.targetModule repaired, .compile project' disk'] := by
  have hvalidate : Run.ofResult r.validate [] = (.ok (), []) := Prod.ext hvalid rfl
  have hgenerate : repairedOnce.generate (functionUseCase r) r.promptContext [] =
      (.ok ⟨"A", none⟩, [.generate (functionUseCase r) r.promptContext]) := rfl
  have hloop := converges_repairedOnce hbuild hrepaired hbuild'
    [.generate (functionUseCase r) r.promptContext]
  rw [← hsources] at hloop
  have hrun : repairedOnce.generateFunction r [] = (.ok ⟨"B", none, 1, [undefinedSymbol]⟩, _) :=
    (Run.bind_of_ok hvalidate).trans ((Run.bind_of_ok hgenerate).trans hloop.converge_eq)
  rw [hrun, hsources]
  rfl

end

/-- Both validations of a run for the request compile the same project. -/
theorem calls_takenRequest {project : Project} {disk : Disk} (hbuild : ∀ calls,
      repairedOnce.host.build calls takenRequest.targetModule takenSources = .ok (project, disk)) :
    (repairedOnce.generateFunction takenRequest []).2 =
      [] ++ ([.generate (functionUseCase takenRequest) takenRequest.promptContext] ++
        takenPass "A" project disk ++ [.repair takenContext] ++ [.parseDeclaration "B",
          .build takenRequest.targetModule takenSources] ++ .compile project disk :: []) :=
  generateFunction_repairedOnce hbuild (by decide) hbuild rfl (by decide)

theorem compiled_code_of_repairedOnce : ∃ project disk,
    project.readSource disk takenRequest.generatedPath = .ok "A" ∧
      (repairedOnce.generateFunction takenRequest []).2 =
        [] ++ ([.generate (functionUseCase takenRequest) takenRequest.promptContext] ++
          takenPass "A" project disk ++ [.repair takenContext] ++ [.parseDeclaration "B",
            .build takenRequest.targetModule takenSources] ++ .compile project disk :: []) := by
  obtain ⟨project, disk, hbuild⟩ := build_takenSources
  have hcalls := calls_takenRequest hbuild
  obtain ⟨started, code, sources, g, hearlier, hgenerate, hread, -⟩ :=
    compiled_code repairedOnce takenRequest [] _ [] project disk hcalls
  have hcode : g.code = "A" := by
    cases hgenerate
    rfl
  have htaken : takenRequest.promptContext.holds takenRequest.generatedPath = true := by decide
  rw [if_pos htaken, hcode] at hread
  exact ⟨project, disk, hread, hcalls⟩

/-- The last code that is read need not be the one that is compiled. -/
theorem repaired_code_is_not_compiled :
    ¬ ∀ (s : Synthesizer) (r : GenerationRequest) (before earlier later : List Call)
        (project : Project) (disk : Disk), r.validate = .ok () →
      (s.generateFunction r before).2 = before ++ (earlier ++ .compile project disk :: later) →
      ∃ started code sources,
        earlier = started ++ [.parseDeclaration code, .build r.targetModule sources] ∧
        project.readSource disk r.generatedPath = .ok code := by
  intro h
  obtain ⟨project, disk, hbuild⟩ := build_takenSources
  obtain ⟨started, code, sources, hearlier, hread⟩ :=
    h repairedOnce takenRequest [] _ [] project disk rfl (calls_takenRequest hbuild)
  obtain ⟨-, hlast⟩ := List.append_inj' hearlier rfl
  obtain ⟨hparse, -⟩ := List.cons.inj hlast
  have hcode : "B" = code := Call.parseDeclaration.inj hparse
  have hfiles : takenSources.files =
      [⟨"generated/functions_g.bal", "B"⟩] ++ [⟨"generated/functions_g.bal", "A"⟩] := rfl
  have hcompiled := Project.readSource_build_last hfiles (Host.build_eq_ok_iff.mp (hbuild []))
  rw [← hcode] at hread
  exact absurd (Except.ok.inj (hcompiled.symm.trans hread)) (by decide)

end Synthesizer

end GuidedSynthesis
