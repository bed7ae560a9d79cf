import GuidedSynthesis.Proofs.Synthesis.CompiledCode
import GuidedSynthesis.Proofs.Synthesis.Passes
/-!
Which files are handed out in a run.

A run for a function hands source files to the service, when code is asked for and with every
repair, and to the builder of the throw-away projects. First these are the context files without the
stale artifact of the declaration. From then on they are files of the same paths with that of the
generated code after them, however often the code is repaired (`files_of_run`). So the path of the
artifact is never among them, unless the generated code itself has it.

## How the proof goes

The sequence of paths is an invariant of the loop: a repair gives a file another content and moves
none (`paths_accept`), and a validation hands out the sources that it is given
(`Validation.handOut`). What is handed out in a whole loop follows turn by turn
(`Converges.handOut`).
-/

namespace GuidedSynthesis

/-! ## 1. Calls that hand out files -/

/-- The source files that a call hands out. -/
def Call.sources? : Call → Option SourceSet
  | .generate _ sources => some sources
  | .repair context => some context.sources
  | .build _ sources => some sources
  | .parseDeclaration _ | .parseExpression _ | .compile .. => none

/-- The calls ask for no first code, and the files that they hand out have the paths. -/
def HandOut (paths : List String) (calls : List Call) : Prop :=
  ∀ call ∈ calls, call.isGeneration = false ∧
    ∀ sources, call.sources? = some sources → sources.paths = paths

namespace HandOut

variable {paths : List String}

theorem append {xs ys : List Call} (hx : HandOut paths xs) (hy : HandOut paths ys) :
    HandOut paths (xs ++ ys) :=
  List.forall_mem_append.mpr ⟨hx, hy⟩

theorem repair {context : RepairContext} (h : context.sources.paths = paths) :
    HandOut paths [.repair context] := by
  intro call hcall
  obtain rfl := List.mem_singleton.mp hcall
  refine ⟨rfl, ?_⟩
  rintro sources ⟨⟩
  exact h

end HandOut

namespace SourceSet

/-- No file that is left has the path. -/
theorem not_mem_paths_without (s : SourceSet) (path : String) : path ∉ (s.without path).paths := by
  rw [paths, List.mem_map]
  rintro ⟨file, hfile, hpath⟩
  have hother := (List.mem_filter.mp hfile).2
  rw [decide_eq_true_eq] at hother
  exact hother hpath

end SourceSet

namespace Synthesizer

variable {s : Synthesizer} {useCase : String}

/-! ## 2. The loop -/

/-- A repair adds no path, takes none away and moves none. -/
theorem paths_accept (p : Progress) (target : Target) (repaired : Option String) :
    (p.accept target repaired).sources.paths = p.sources.paths := by
  cases repaired with
  | none => rfl
  | some code =>
    cases target with
    | function request => exact SourceSet.paths_replace p.sources request.generatedPath code
    | constant natural document model => rfl

theorem Validation.handOut {sources : SourceSet} {code : String} {target : Target}
    {before made : List Call} (h : Validation s before sources code target made) :
    HandOut sources.paths made := by
  have hsources : ∀ call ∈ made, call.isGeneration = false ∧
      ∀ given, call.sources? = some given → given = sources := by
    cases h <;> simp [Call.isGeneration, Call.sources?]
  intro call hcall
  obtain ⟨hgeneration, hgiven⟩ := hsources call hcall
  exact ⟨hgeneration, fun given h => hgiven given h ▸ rfl⟩

theorem Converges.handOut {target : Target} {p : Progress} {before after : List Call}
    {result : Result GenerationOutcome} (h : s.Converges target useCase p before result after) :
    ∃ made, after = before ++ made ∧ HandOut p.sources.paths made := by
  induction h with
  | broken validated | clean validated | exhausted validated _ _ =>
    obtain ⟨made, hmade, hcalls, -⟩ := calls_validate validated
    exact ⟨made, hmade, hcalls.handOut⟩
  | unrepaired validated _ _ _ =>
    obtain ⟨made, rfl, hcalls, -⟩ := calls_validate validated
    exact ⟨_, List.append_assoc _ _ _, hcalls.handOut.append (.repair rfl)⟩
  | @repaired p _ _ _ found code _ validated _ _ _ _ ih =>
    obtain ⟨made, rfl, hcalls, -⟩ := calls_validate validated
    obtain ⟨more, rfl, hmore⟩ := ih
    rw [paths_accept] at hmore
    have hrepair : HandOut p.sources.paths
        [.repair ((p.observe found).context target useCase)] := .repair rfl
    refine ⟨_, ?_, (hcalls.handOut.append hrepair).append hmore⟩
    simp only [List.append_assoc]

/-! ## 3. Runs -/

/-- A synthesis asks for code with the sources that it is given, and from then on hands out the
sources that it works with. -/
theorem handOut_of_synthesize {target : Target} {sources : SourceSet} {paths : List String}
    {before after : List Call} {result : Result GenerationOutcome}
    (hpaths : ∀ code, (target.working sources code).paths = paths)
    (h : s.synthesize target useCase sources before = (result, after)) :
    ∃ later, after = before ++ .generate useCase sources :: later ∧ HandOut paths later := by
  obtain ⟨failure, -, -, rfl⟩ | ⟨g, -, hloop⟩ := synthesize_cases h
  · exact ⟨[], rfl, fun call hcall => absurd hcall List.not_mem_nil⟩
  · obtain ⟨made, rfl, hmade⟩ := hloop.handOut
    rw [hpaths g.code] at hmade
    exact ⟨made, List.append_assoc _ _ _, hmade⟩

/-- A run for a request that is accepted asks for code once, at its beginning, with the context
files other than the artifact, in order and as they are. Every other call that hands out files, be
it a repair or the building of a project, hands out files of the same paths and one more at the end,
that of the generated code. So none of the calls hands out a file at the path of the artifact,
except for those after the first one if that is the path of the generated code. -/
theorem files_of_run (s : Synthesizer) (r : GenerationRequest) (before : List Call)
    (h : r.validate = .ok ()) :
    ∃ useCase context later,
      (s.generateFunction r before).2 = before ++ .generate useCase context :: later ∧
      context.files = r.contextFiles.files.filter (fun file => file.path ≠ r.artifactPath) ∧
      r.artifactPath ∉ context.paths ∧
      ∀ call ∈ later, call.isGeneration = false ∧ ∀ sources, call.sources? = some sources →
        sources.paths = context.paths ++ [r.generatedPath] ∧
        (r.artifactPath ∈ sources.paths ↔ r.artifactPath = r.generatedPath) := by
  have hstale : r.artifactPath ∉ r.promptContext.paths :=
    SourceSet.not_mem_paths_without r.contextFiles r.artifactPath
  have hworking (code : String) : ((Target.function r).working r.promptContext code).paths =
      r.promptContext.paths ++ [r.generatedPath] := SourceSet.paths_push ..
  have hrun : s.generateFunction r before = s.synthesize (.function r)
      (Prompt.functionUseCase r.annotatedSymbol r.generatedSymbol r.prompt) r.promptContext
      before := Run.bind_of_ok (Prod.ext h rfl)
  obtain ⟨later, hcalls, hhanded⟩ := handOut_of_synthesize hworking hrun.symm
  refine ⟨_, r.promptContext, later, hcalls, rfl, hstale, ?_⟩
  intro call hcall
  obtain ⟨hgeneration, hpaths⟩ := hhanded call hcall
  refine ⟨hgeneration, fun sources hgiven => ⟨hpaths sources hgiven, ?_⟩⟩
  rw [hpaths sources hgiven, List.mem_append, List.mem_singleton]
  exact or_iff_right hstale

/-! A run in which the artifact has the path of the generated code. -/

/-- A request with a stale artifact among its context files, at the path of the generated code. -/
def collidingRequest : GenerationRequest :=
  ⟨"functions_g", "g_np_generated", "Add the numbers.",
    ⟨[⟨"main.bal", "A"⟩, ⟨"generated/functions_g_np_generated.bal", "stale"⟩, ⟨"main.bal", "B"⟩]⟩,
    ⟨"acme", "calc", "0.1.0"⟩⟩

/-- The sources of a validation of a code. -/
def collidingSources (code : String) : SourceSet :=
  ⟨[⟨"main.bal", "A"⟩, ⟨"main.bal", "B"⟩, ⟨"generated/functions_g_np_generated.bal", code⟩]⟩

/-- The two files of one path are not in the way of each other. -/
theorem clear_collidingSources (code : String) : Project.Clear Scratch.empty.disk
    Scratch.empty.directory Scratch.empty.name (collidingSources code) := by
  have hclear : Project.Clear Scratch.empty.disk Scratch.empty.directory Scratch.empty.name
      (collidingSources "") := ⟨⟨_, rfl⟩, by decide, by decide, by decide +kernel, by decide⟩
  exact hclear.mono (List.Subset.refl _)

theorem build_collidingSources (code : String) : ∃ project disk, ∀ calls,
    repairedOnce.host.build calls collidingRequest.targetModule (collidingSources code) =
      .ok (project, disk) :=
  exists_build_of_clear (fun _ => rfl) (clear_collidingSources code)
    collidingRequest.targetModule

/-- Two projects are built and one repair is asked for after the first code. -/
theorem files_of_run_of_collision :
    collidingRequest.validate = .ok () ∧
    collidingRequest.artifactPath = collidingRequest.generatedPath ∧
    ∃ useCase context later,
      (repairedOnce.generateFunction collidingRequest []).2 =
        [] ++ .generate useCase context :: later ∧
      context.files = [⟨"main.bal", "A"⟩, ⟨"main.bal", "B"⟩] ∧
      (later.filterMap Call.sources?).map SourceSet.paths = List.replicate 3
        ["main.bal", "main.bal", "generated/functions_g_np_generated.bal"] := by
  have hvalid : collidingRequest.validate = .ok () := rfl
  have hhandouts : ((repairedOnce.generateFunction collidingRequest []).2.filterMap
      Call.sources?).length = 4 := by
    obtain ⟨project, disk, hbuild⟩ := build_collidingSources "A"
    obtain ⟨project', disk', hbuild'⟩ := build_collidingSources "B"
    have hrepaired : (collidingSources "A").replace collidingRequest.generatedPath "B" =
        collidingSources "B" := by decide
    rw [generateFunction_repairedOnce hbuild hrepaired hbuild' hvalid (by decide)]
    rfl
  obtain ⟨useCase, context, later, hcalls, hcontext, -, hlater⟩ :=
    files_of_run repairedOnce collidingRequest [] hvalid
  have hfiles : context.files = [⟨"main.bal", "A"⟩, ⟨"main.bal", "B"⟩] := by
    rw [hcontext]
    decide
  have hpaths : context.paths ++ [collidingRequest.generatedPath] =
      ["main.bal", "main.bal", "generated/functions_g_np_generated.bal"] := by
    rw [SourceSet.paths, hfiles]
    rfl
  refine ⟨hvalid, by decide, useCase, context, later, hcalls, hfiles, ?_⟩
  rw [hcalls] at hhandouts
  rw [List.eq_replicate_iff, List.length_map]
  refine ⟨Nat.succ.inj hhandouts, ?_⟩
  intro paths hmem
  obtain ⟨sources, hsources, rfl⟩ := List.mem_map.mp hmem
  obtain ⟨call, hcall, hgiven⟩ := List.mem_filterMap.mp hsources
  exact ((hlater call hcall).2 sources hgiven).1.trans hpaths

end Synthesizer

end GuidedSynthesis
