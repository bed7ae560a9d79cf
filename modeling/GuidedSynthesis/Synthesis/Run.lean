import GuidedSynthesis.Answer
import GuidedSynthesis.Project
import GuidedSynthesis.Semantics
import GuidedSynthesis.Service.Repair
/-!
Runs: computations that call others and may fail.

A run keeps the list of the calls it has made. Those that are called, a generator of code and the
host with its compiler and its disk, may answer by all that was called before. The first call that
fails ends the run (`bind_of_error`). `bind_cases` takes a run apart that is known by its end.
-/

namespace GuidedSynthesis

/-- A call that a run makes. -/
inductive Call where
  | generate (useCase : String) (sources : SourceSet)
  | repair (context : RepairContext)
  | parseDeclaration (code : String)
  | parseExpression (code : String)
  | build (module : ModuleDescriptor) (sources : SourceSet)
  | compile (project : Project) (disk : Disk)

/-- What writes the code. Its answers may depend on the calls made before. -/
structure Generator where
  name : String
  generate : List Call → String → SourceSet → Result GeneratedCode
  /-- The whole text of the answer to a repair request. -/
  requestRepair : List Call → RepairContext → Result String
  /-- The repaired code, if there is any. Unless a generator has a way of its own to tell, that is
  the block of code in the answer. -/
  repair : List Call → RepairContext → Result (Option String) :=
    fun calls c => (requestRepair calls c).map Answer.code?

/-- What a run finds on its host: the compiler, and a place for throw-away projects. Both may depend
on the calls made before. -/
structure Host where
  parseDeclaration : List Call → String → Result (Parsed ModulePart)
  parseExpression : List Call → String → Result (Parsed Expr)
  /-- Compiles a project as it is on disk. -/
  compile : List Call → Project → Disk → Result Compilation
  /-- Where the next project is made. A project is gone before the next one is made, so the place is
  empty unless something else is there. -/
  scratch : List Call → Scratch := fun _ => .empty

namespace Host

/-- Builds a throw-away project, and tells the disk on which it is. -/
def build (h : Host) (calls : List Call) (module : ModuleDescriptor) (sources : SourceSet) :
    Result (Project × Disk) :=
  let place := h.scratch calls
  match Project.build place.disk place.directory place.name module sources with
  | (.ok project, disk) => .ok (project, disk)
  | (.error failure, _) => .error failure

theorem build_eq_ok_iff {h : Host} {calls : List Call} {module : ModuleDescriptor}
    {sources : SourceSet} {project : Project} {disk : Disk} :
    h.build calls module sources = .ok (project, disk) ↔
      Project.build (h.scratch calls).disk (h.scratch calls).directory (h.scratch calls).name module
        sources = (.ok project, disk) := by
  rw [build]
  rcases Project.build (h.scratch calls).disk (h.scratch calls).directory (h.scratch calls).name
    module sources with ⟨failure | made, left⟩ <;> simp

/-- Where the place is always the same, so is what is built. -/
theorem exists_build_eq_ok {h : Host} {place : Scratch} {module : ModuleDescriptor}
    {sources : SourceSet} (hplace : ∀ calls, h.scratch calls = place)
    (hbuilt : ∃ project disk, Project.build place.disk place.directory place.name module sources =
      (.ok project, disk)) :
    ∃ project disk, ∀ calls, h.build calls module sources = .ok (project, disk) := by
  obtain ⟨project, disk, hbuilt⟩ := hbuilt
  refine ⟨project, disk, fun calls => build_eq_ok_iff.mpr ?_⟩
  rw [hplace, hbuilt]

end Host

/-- A computation that starts after some calls and ends after some more. -/
def Run (α : Type) : Type := List Call → Result α × List Call

namespace Run

/-- A run that makes no call. -/
def ofResult (result : Result α) : Run α := fun calls => (result, calls)

/-- The run of one call. -/
def perform (call : Call) (answer : List Call → Result α) : Run α :=
  fun calls => (answer calls, calls ++ [call])

/-- Goes on with the result of a run, unless it failed. -/
def andThen (run : Run α) (next : α → Run β) : Run β := fun calls =>
  match run calls with
  | (.ok a, calls) => next a calls
  | (.error failure, calls) => (.error failure, calls)

instance : Monad Run where
  pure a := ofResult (.ok a)
  bind := andThen

theorem bind_of_ok {run : Run α} {next : α → Run β} {before after : List Call} {a : α}
    (h : run before = (.ok a, after)) : (run >>= next) before = next a after := by
  show andThen run next before = _
  simp [andThen, h]

theorem bind_of_error {run : Run α} {next : α → Run β} {before after : List Call}
    {failure : Failure} (h : run before = (.error failure, after)) :
    (run >>= next) before = (.error failure, after) := by
  show andThen run next before = _
  simp [andThen, h]

/-- How a run that goes on ends: as the first part ends if that fails, and else as the rest ends
that goes on after it. -/
theorem bind_cases {run : Run α} {next : α → Run β} {before after : List Call} {result : Result β}
    (h : (run >>= next) before = (result, after)) :
    (∃ failure, run before = (.error failure, after) ∧ result = .error failure) ∨
      ∃ a middle, run before = (.ok a, middle) ∧ next a middle = (result, after) := by
  match hr : run before with
  | (.error failure, middle) =>
    rw [bind_of_error hr] at h
    obtain ⟨rfl, rfl⟩ := Prod.mk.inj h
    exact .inl ⟨failure, rfl, rfl⟩
  | (.ok a, middle) =>
    rw [bind_of_ok hr] at h
    exact .inr ⟨a, middle, rfl, h⟩

end Run

end GuidedSynthesis
