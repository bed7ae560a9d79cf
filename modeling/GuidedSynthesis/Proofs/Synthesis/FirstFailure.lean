import GuidedSynthesis.Proofs.Synthesis.Passes
/-!
The first failure ends a run.

The calls of a run come in one order: a generation, then pass after pass of reading, and for a
function also of building and compiling, with one repair between each two passes
(`Target.schedule`). A call may fail in any pass. That call is then the last one, and its failure is
the result of the run. There is no other way for a run to fail, but for a task that is refused: then
nothing is called at all (`first_failure_ends`).

## How the proof goes

Whether a call fails is known by its answer alone (`failure?`), so that it can be said of any list
of calls how it ends (`Ends`). That a run stops at the first of its calls that fails, and that it
keeps to an order, are both said of the calls that it makes (`Run.Makes`), and a run is put together
from others by one rule (`Run.Makes.bind`). In which order a loop makes its calls depends on how
often it is repaired, and is proved by induction on its turns (`Converges.follows`).
-/

namespace GuidedSynthesis

/-- The failure that is the result, if it is one. -/
def failureOf? : Result α → Option Failure
  | .ok _ => none
  | .error failure => some failure

/-! ## 1. How calls end -/

namespace Synthesizer

/-- The failure of a call that is made after some others. -/
def failure? (s : Synthesizer) (before : List Call) : Call → Option Failure
  | .generate useCase sources => failureOf? (s.generator.generate before useCase sources)
  | .repair context => failureOf? (s.generator.repair before context)
  | .parseDeclaration code => failureOf? (s.host.parseDeclaration before code)
  | .parseExpression code => failureOf? (s.host.parseExpression before code)
  | .build module sources => failureOf? (s.host.build before module sources)
  | .compile project disk => failureOf? (s.host.compile before project disk)

/-- How calls end that are made after some others: with the failure of the last one, or without any.
No call but the last one fails. -/
inductive Ends (s : Synthesizer) : List Call → List Call → Option Failure → Prop where
  | none {before : List Call} : Ends s before [] none
  | failed {before : List Call} {call : Call} {failure : Failure}
      (fails : s.failure? before call = some failure) : Ends s before [call] (some failure)
  | next {before : List Call} {call : Call} {more : List Call} {ending : Option Failure}
      (succeeds : s.failure? before call = .none) (rest : Ends s (before ++ [call]) more ending) :
      Ends s before (call :: more) ending

namespace Ends

variable {s : Synthesizer} {before made : List Call} {ending : Option Failure}

theorem append {more : List Call} (h : s.Ends before made .none)
    (hmore : s.Ends (before ++ made) more ending) : s.Ends before (made ++ more) ending := by
  generalize hgood : (Option.none : Option Failure) = good at h
  induction h with
  | none =>
    rw [List.append_nil] at hmore
    exact hmore
  | failed _ => exact nomatch hgood
  | next succeeds _ ih =>
    refine .next succeeds (ih ?_ hgood)
    rw [List.append_assoc]
    exact hmore

/-- A call that fails is the last one. -/
theorem last_of_failure (h : s.Ends before made ending) {earlier later : List Call} {call : Call}
    {failure : Failure} (hmade : made = earlier ++ call :: later)
    (hfails : s.failure? (before ++ earlier) call = some failure) :
    later = [] ∧ ending = some failure := by
  induction h generalizing earlier with
  | none => simp at hmade
  | @failed before made failure' fails =>
    have hsingle : earlier = [] ∧ made = call ∧ later = [] := by
      cases earlier <;> simp_all
    obtain ⟨rfl, rfl, rfl⟩ := hsingle
    rw [List.append_nil, fails] at hfails
    exact ⟨rfl, hfails⟩
  | @next before first more ending succeeds _ ih =>
    cases earlier with
    | nil =>
      -- the first call has succeeded
      obtain ⟨rfl, rfl⟩ := List.cons.inj hmade
      rw [List.append_nil, succeeds] at hfails
      exact nomatch hfails
    | cons call' earlier =>
      obtain ⟨rfl, hmore⟩ := List.cons.inj hmade
      refine ih hmore ?_
      rw [List.append_assoc]
      exact hfails

/-- A failure is that of the last call. -/
theorem exists_last {failure : Failure} (h : s.Ends before made (some failure)) :
    ∃ earlier call, made = earlier ++ [call] ∧
      s.failure? (before ++ earlier) call = some failure := by
  generalize hbad : some failure = bad at h
  induction h with
  | none => exact nomatch hbad
  | @failed before call _ fails =>
    cases hbad
    exact ⟨[], call, rfl, by rw [List.append_nil]; exact fails⟩
  | @next before call more _ _ _ ih =>
    obtain ⟨earlier, last, rfl, hlast⟩ := ih hbad
    rw [List.append_assoc] at hlast
    exact ⟨call :: earlier, last, rfl, hlast⟩

end Ends

end Synthesizer

/-! ## 2. Runs that stop -/

namespace Run

/-- Of the calls of a run and its result something holds, whatever calls were made before. -/
def Makes (Holds : List Call → List Call → Result α → Prop) (run : Run α) : Prop :=
  ∀ before, ∃ made, (run before).2 = before ++ made ∧ Holds before made (run before).1

/-- One run after another. Either the first one fails and all is said, or the calls of both come
together. -/
theorem Makes.bind {run : Run α} {next : α → Run β}
    {Holds : List Call → List Call → Result α → Prop}
    {Later Whole : List Call → List Call → Result β → Prop} (h : Makes Holds run)
    (hnext : ∀ a, Makes Later (next a))
    (failed : ∀ {before made failure}, Holds before made (.error failure) →
      Whole before made (.error failure))
    (goesOn : ∀ {before made a more result}, Holds before made (.ok a) →
      Later (before ++ made) more result → Whole before (made ++ more) result) :
    Makes Whole (run >>= next) := by
  intro before
  obtain ⟨made, hmade, hholds⟩ := h before
  match hrun : run before with
  | (.error failure, after) =>
    rw [hrun] at hmade hholds
    rw [bind_of_error hrun]
    exact ⟨made, hmade, failed hholds⟩
  | (.ok a, after) =>
    rw [hrun] at hmade hholds
    rw [bind_of_ok hrun]
    have hafter : after = before ++ made := hmade
    obtain ⟨more, hmore, hlater⟩ := hnext a after
    rw [hafter] at hmore hlater ⊢
    rw [List.append_assoc] at hmore
    exact ⟨made ++ more, hmore, goesOn hholds hlater⟩

end Run

namespace Synthesizer

/-- The run stops at the first of its calls that fails, and fails as that call does. -/
def StopsAtFailure (s : Synthesizer) (run : Run α) : Prop :=
  run.Makes fun before made result => s.Ends before made (failureOf? result)

namespace StopsAtFailure

variable {s : Synthesizer}

theorem pure (a : α) : s.StopsAtFailure (Pure.pure a : Run α) :=
  fun before => ⟨[], (List.append_nil before).symm, .none⟩

theorem perform {call : Call} {answer : List Call → Result α}
    (h : ∀ before, failureOf? (answer before) = s.failure? before call) :
    s.StopsAtFailure (Run.perform call answer) := by
  intro before
  refine ⟨[call], rfl, ?_⟩
  show s.Ends before [call] (failureOf? (answer before))
  rw [h before]
  cases hfailure : s.failure? before call with
  | none => exact .next hfailure .none
  | some failure => exact .failed hfailure

theorem bind {run : Run α} {next : α → Run β} (h : s.StopsAtFailure run)
    (hnext : ∀ a, s.StopsAtFailure (next a)) : s.StopsAtFailure (run >>= next) :=
  Run.Makes.bind h hnext id Ends.append

end StopsAtFailure

variable {s : Synthesizer} {target : Target} {useCase : String}

theorem stopsAtFailure_validate (sources : SourceSet) (code : String) :
    s.StopsAtFailure (s.validate target sources code) := by
  cases target with
  | constant natural document model =>
    exact .bind (.perform fun _ => rfl) fun parsed => .pure _
  | function request =>
    refine .bind (.perform fun _ => rfl) fun parsed => ?_
    refine .bind (.perform fun _ => rfl) fun built => ?_
    exact .bind (.perform fun _ => rfl) fun compilation => .pure _

theorem stopsAtFailure_converge (p : Progress) :
    s.StopsAtFailure (s.converge target useCase p) := by
  -- a repair leaves fewer repairs
  induction hleft : p.state.repairsLeft s.maxRepairs using Nat.strongRecOn generalizing p with
  | _ n ih =>
    subst hleft
    rw [converge]
    refine .bind (stopsAtFailure_validate p.sources p.generated.code) fun found => ?_
    split
    · exact .pure _
    · split
      · rename_i allowed
        refine .bind (.perform fun _ => rfl) fun repaired => ?_
        exact ih _ (p.repairsLeft_accept_lt target repaired allowed) _ rfl
      · exact .pure _

theorem stopsAtFailure_synthesize (s : Synthesizer) (target : Target) (useCase : String)
    (sources : SourceSet) : s.StopsAtFailure (s.synthesize target useCase sources) :=
  .bind (.perform fun _ => rfl) fun _ => stopsAtFailure_converge _

end Synthesizer

/-! ## 3. The order of calls -/

/-- The kinds of calls. -/
inductive Stage where
  | generation
  | repair
  | declaration
  | expression
  | building
  | compilation
  deriving DecidableEq, Repr

def Call.stage : Call → Stage
  | generate .. => .generation
  | repair _ => .repair
  | parseDeclaration _ => .declaration
  | parseExpression _ => .expression
  | build .. => .building
  | compile .. => .compilation

namespace Target

/-- The calls of a pass. -/
def pass : Target → List Stage
  | function _ => [.declaration, .building, .compilation]
  | constant .. => [.expression]

/-- Passes with so many repairs between them. -/
def passes (target : Target) : Nat → List Stage
  | 0 => target.pass
  | repairs + 1 => target.pass ++ .repair :: target.passes repairs

/-- The calls of a run with so many repairs, if none fails. -/
def schedule (target : Target) (repairs : Nat) : List Stage :=
  .generation :: target.passes repairs

theorem pass_prefix_passes (target : Target) (repairs : Nat) :
    target.pass <+: target.passes repairs := by
  cases repairs with
  | zero => exact List.prefix_rfl
  | succ repairs => exact List.prefix_append _ _

end Target

namespace Run

/-- The run keeps to an order of calls, all of which it makes unless it fails. -/
def Follows (stages : List Stage) (run : Run α) : Prop :=
  run.Makes fun _ made result => made.map Call.stage <+: stages ∧
    ∀ a, result = .ok a → made.map Call.stage = stages

namespace Follows

theorem pure (a : α) : Follows [] (Pure.pure a : Run α) :=
  fun before => ⟨[], (List.append_nil before).symm, List.prefix_rfl, fun _ _ => rfl⟩

theorem perform (call : Call) (answer : List Call → Result α) :
    Follows [call.stage] (Run.perform call answer) :=
  fun _ => ⟨[call], rfl, List.prefix_rfl, fun _ _ => rfl⟩

theorem bind {stages later : List Stage} {run : Run α} {next : α → Run β} (h : Follows stages run)
    (hnext : ∀ a, Follows later (next a)) : Follows (stages ++ later) (run >>= next) := by
  refine Makes.bind h hnext ?_ ?_
  · rintro _ made failure ⟨hmade, -⟩
    exact ⟨hmade.trans (List.prefix_append _ _), fun _ hok => nomatch hok⟩
  · rintro _ made a more result ⟨-, hwhole⟩ ⟨hrest, hlast⟩
    rw [List.map_append, hwhole a rfl]
    refine ⟨(List.prefix_append_right_inj _).mpr hrest, fun b hok => ?_⟩
    rw [hlast b hok]

end Follows

end Run

namespace Synthesizer

variable {s : Synthesizer} {target : Target} {useCase : String}

theorem follows_validate (s : Synthesizer) (target : Target) (sources : SourceSet)
    (code : String) : Run.Follows target.pass (s.validate target sources code) := by
  cases target with
  | constant natural document model => exact .bind (.perform _ _) fun parsed => .pure _
  | function request =>
    refine .bind (.perform (.parseDeclaration code) _) fun parsed => ?_
    refine .bind (.perform (.build request.targetModule sources) _) fun built => ?_
    exact .bind (.perform (.compile built.1 built.2) _) fun compilation => .pure _

/-- A pass that is made within a loop. -/
theorem follows_of_validate {sources : SourceSet} {code : String} {before after : List Call}
    {result : Result (List Diagnostic)}
    (h : s.validate target sources code before = (result, after)) :
    ∃ made, after = before ++ made ∧ made.map Call.stage <+: target.pass ∧
      ∀ found, result = .ok found → made.map Call.stage = target.pass := by
  have hfollows := follows_validate s target sources code before
  rw [h] at hfollows
  exact hfollows

/-- The calls of a loop are passes with repairs between them. A loop with an outcome makes as many
repairs as it adds to those before; one that a call ends makes no more than are left. -/
theorem Converges.follows {p : Progress} {before after : List Call}
    {result : Result GenerationOutcome} (h : s.Converges target useCase p before result after) :
    ∃ made, after = before ++ made ∧
      made.map Call.stage <+: target.passes (p.state.repairsLeft s.maxRepairs) ∧
      ∀ outcome, result = .ok outcome → ∃ repairs,
        outcome.repairAttempts = p.state.attempt + repairs ∧
          made.map Call.stage = target.passes repairs := by
  induction h with
  | broken validated =>
    obtain ⟨made, hmade, hprefix, -⟩ := follows_of_validate validated
    exact ⟨made, hmade, hprefix.trans (target.pass_prefix_passes _), fun _ hok => nomatch hok⟩
  | clean validated | exhausted validated _ _ =>
    obtain ⟨made, hmade, hprefix, hwhole⟩ := follows_of_validate validated
    refine ⟨made, hmade, hprefix.trans (target.pass_prefix_passes _), ?_⟩
    rintro outcome ⟨⟩
    exact ⟨0, rfl, hwhole _ rfl⟩
  | @unrepaired p _ _ found _ validated _ allowed _ =>
    obtain ⟨made, rfl, -, hwhole⟩ := follows_of_validate validated
    obtain ⟨left, hleft⟩ := Nat.exists_eq_succ_of_ne_zero
      (Nat.pos_iff_ne_zero.mp ((RetryState.canRepair_iff _ _).mp allowed))
    have hleft' : p.state.repairsLeft s.maxRepairs = left + 1 := hleft
    refine ⟨_, List.append_assoc _ _ _, ?_, fun _ hok => nomatch hok⟩
    rw [List.map_append, hwhole _ rfl, hleft', Target.passes, List.prefix_append_right_inj]
    exact ⟨target.passes left, rfl⟩
  | @repaired p _ _ _ found code _ validated _ allowed _ _ ih =>
    obtain ⟨made, rfl, -, hwhole⟩ := follows_of_validate validated
    obtain ⟨more, rfl, hprefix, houtcome⟩ := ih
    have hleft : p.state.repairsLeft s.maxRepairs =
        ((p.observe found).accept target code).state.repairsLeft s.maxRepairs + 1 := by
      have hpos := (RetryState.canRepair_iff _ _).mp allowed
      rw [Progress.state_accept]
      simp only [Progress.observe, RetryState.observe, RetryState.advance, RetryState.repairsLeft]
        at hpos ⊢
      omega
    let repair : Call := .repair ((p.observe found).context target useCase)
    have hstages : (made ++ repair :: more).map Call.stage =
        target.pass ++ .repair :: more.map Call.stage := by
      rw [List.map_append, hwhole _ rfl]
      rfl
    refine ⟨made ++ repair :: more, by simp only [List.append_assoc]; rfl, ?_, ?_⟩
    · rw [hstages, hleft, Target.passes, List.prefix_append_right_inj, List.prefix_cons_inj]
      exact hprefix
    · intro outcome hok
      obtain ⟨repairs, hattempts, hmore⟩ := houtcome outcome hok
      refine ⟨repairs + 1, ?_, ?_⟩
      · rw [hattempts, Progress.state_accept]
        simp only [Progress.observe, RetryState.observe, RetryState.advance]
        omega
      · rw [hstages, hmore, Target.passes]

theorem follows_of_synthesize {sources : SourceSet} {before after : List Call}
    {result : Result GenerationOutcome}
    (h : s.synthesize target useCase sources before = (result, after)) :
    ∃ made, after = before ++ .generate useCase sources :: made ∧
      (Call.generate useCase sources :: made).map Call.stage <+: target.schedule s.maxRepairs ∧
      ∀ outcome, result = .ok outcome →
        (Call.generate useCase sources :: made).map Call.stage =
          target.schedule outcome.repairAttempts := by
  obtain ⟨failure, -, rfl, rfl⟩ | ⟨g, -, hloop⟩ := synthesize_cases h
  · exact ⟨[], rfl, ⟨target.passes s.maxRepairs, rfl⟩, fun _ hok => nomatch hok⟩
  · obtain ⟨made, rfl, hprefix, houtcome⟩ := hloop.follows
    refine ⟨made, List.append_assoc _ _ _, ?_, ?_⟩
    · exact List.prefix_cons_inj _ |>.mpr hprefix
    · intro outcome hok
      obtain ⟨repairs, hattempts, hmade⟩ := houtcome outcome hok
      rw [RetryState.start, Nat.zero_add] at hattempts
      rw [List.map_cons, hmade, hattempts]
      rfl

end Synthesizer

/-! ## 4. Runs -/

/-- Why a task is refused. -/
inductive Task.Refused : Task → Failure → Prop where
  /-- A name is no identifier, or the prompt is blank. -/
  | invalid {request : GenerationRequest} {failure : Failure}
      (invalid : request.validate = .error failure) : Refused (.function request) failure
  | notNatural {natural : Expr} {document : String} {model : SemanticModel} {sources : SourceSet}
      (other : ∀ parts source range, natural ≠ .mk (.natural parts) source range) :
      Refused (.constant natural document model sources)
        (.parse ("'" ++ natural.source ++ "' is not a natural expression"))
  | unknownType {parts : List PromptPart} {source document : String} {range : Range}
      {model : SemanticModel} {sources : SourceSet}
      (unexpected : model.expectedType (.mk (.natural parts) source range) = none)
      (untyped : model.typeOf (.mk (.natural parts) source range) = none) :
      Refused (.constant (.mk (.natural parts) source range) document model sources)
        (.parse ("cannot determine the expected type of the natural expression at " ++
          document ++ ":" ++ range.text))

namespace Synthesizer

theorem naturalParts_cases (natural : Expr) :
    (∃ parts source range, natural = .mk (.natural parts) source range) ∨
      (∀ parts source range, natural ≠ .mk (.natural parts) source range) ∧
        naturalParts natural =
          .error (.parse ("'" ++ natural.source ++ "' is not a natural expression")) := by
  unfold naturalParts
  split
  · rename_i parts source range
    exact .inl ⟨parts, source, range, rfl⟩
  · rename_i other
    exact .inr ⟨other, rfl⟩

/-- A task is refused before anything is called, or it is not and is a synthesis. -/
theorem carryOut_refused_or (s : Synthesizer) (task : Task) :
    (∃ failure, task.Refused failure ∧
        ∀ before, s.carryOut task before = (.error failure, before)) ∨
      (∀ failure, ¬ task.Refused failure) ∧
        ∃ useCase sources, s.carryOut task = s.synthesize task.target useCase sources := by
  cases task with
  | function request =>
    cases hvalid : request.validate with
    | error failure =>
      refine .inl ⟨failure, .invalid hvalid, fun before => ?_⟩
      exact Run.bind_of_error (by rw [hvalid]; rfl)
    | ok valid =>
      refine .inr ⟨?_, Prompt.functionUseCase request.annotatedSymbol request.generatedSymbol
        request.prompt, request.promptContext, funext fun before => ?_⟩
      · rintro failure ⟨hinvalid⟩
        rw [hvalid] at hinvalid
        exact nomatch hinvalid
      · exact Run.bind_of_ok (by rw [hvalid]; rfl)
  | constant natural document model sources =>
    obtain ⟨parts, source, range, rfl⟩ | ⟨hother, hparts⟩ := naturalParts_cases natural
    · cases htype : (model.expectedType (.mk (.natural parts) source range)).or
          (model.typeOf (.mk (.natural parts) source range)) with
      | none =>
        obtain ⟨hexpected, htyped⟩ := Option.or_eq_none_iff.mp htype
        refine .inl ⟨_, .unknownType hexpected htyped, fun before => ?_⟩
        refine (Run.bind_of_ok rfl).trans (Run.bind_of_error ?_)
        rw [expectedType, htype]
        rfl
      | some type =>
        refine .inr ⟨?_, Prompt.constantUseCase type parts model document, sources,
          funext fun before => ?_⟩
        · rintro failure (_ | other | ⟨hexpected, htyped⟩)
          · exact other parts source range rfl
          · rw [hexpected, htyped] at htype
            exact nomatch htype
        · refine (Run.bind_of_ok rfl).trans (Run.bind_of_ok ?_)
          rw [expectedType, htype]
          rfl
    · refine .inl ⟨_, .notNatural hother, fun before => ?_⟩
      exact Run.bind_of_error (by rw [hparts]; rfl)

/-- How the calls of a run and its result belong together. -/
structure CallLaw (s : Synthesizer) (task : Task) (before : List Call)
    (result : Result GenerationOutcome) (made : List Call) : Prop where
  /-- The calls come in order, the generation first, and not all may be made. -/
  order : made ≠ [] ∧ made.map Call.stage <+: task.target.schedule s.maxRepairs
  /-- All of them are made when the run comes to an outcome. -/
  whole : ∀ outcome, result = .ok outcome →
    made.map Call.stage = task.target.schedule outcome.repairAttempts
  /-- After a call that fails nothing is called, and its failure is the result. -/
  stopped : ∀ earlier call later failure, made = earlier ++ call :: later →
    s.failure? (before ++ earlier) call = some failure → later = [] ∧ result = .error failure
  /-- The run fails in no other way. -/
  caused : ∀ failure, result = .error failure → ∃ earlier call, made = earlier ++ [call] ∧
    s.failure? (before ++ earlier) call = some failure

theorem failureOf?_eq_some_iff {result : Result α} {failure : Failure} :
    failureOf? result = some failure ↔ result = .error failure := by
  cases result <;> simp [failureOf?]

theorem callLaw_of_synthesize {s : Synthesizer} {task : Task} {useCase : String}
    {sources : SourceSet} {before after : List Call} {result : Result GenerationOutcome}
    (h : s.synthesize task.target useCase sources before = (result, after)) :
    ∃ made, after = before ++ made ∧ s.CallLaw task before result made := by
  obtain ⟨made, hmade, hprefix, hwhole⟩ := follows_of_synthesize h
  obtain ⟨all, hall, hends⟩ := stopsAtFailure_synthesize s task.target useCase sources before
  rw [h] at hall hends
  rw [hmade] at hall
  obtain rfl := List.append_cancel_left hall
  refine ⟨_, hmade, ⟨List.cons_ne_nil _ _, hprefix⟩, hwhole, ?_, ?_⟩
  · intro earlier call later failure hsplit hfails
    obtain ⟨hlater, hresult⟩ := hends.last_of_failure hsplit hfails
    exact ⟨hlater, failureOf?_eq_some_iff.mp hresult⟩
  · intro failure herror
    rw [failureOf?_eq_some_iff.mpr herror] at hends
    exact hends.exists_last

/-- A task that is refused fails with what it is refused for, and nothing is called. In a run of any
other task the calls come in order. The first that fails is the last one and its failure is the
result; if none fails, all calls of some schedule are made and there is an outcome. -/
theorem first_failure_ends (s : Synthesizer) (task : Task) (before : List Call) :
    (∃ failure, task.Refused failure ∧ s.carryOut task before = (.error failure, before)) ∨
      (∀ failure, ¬ task.Refused failure) ∧ ∃ result made,
        s.carryOut task before = (result, before ++ made) ∧ s.CallLaw task before result made := by
  obtain ⟨failure, hrefused, hrun⟩ | ⟨haccepted, useCase, sources, hrun⟩ :=
    s.carryOut_refused_or task
  · exact .inl ⟨failure, hrefused, hrun before⟩
  · have h : s.synthesize task.target useCase sources before =
        ((s.synthesize task.target useCase sources before).1,
          (s.synthesize task.target useCase sources before).2) := rfl
    obtain ⟨made, hmade, hlaw⟩ := callLaw_of_synthesize h
    rw [hmade] at h
    rw [hrun]
    exact .inr ⟨haccepted, _, made, h, hlaw⟩

end Synthesizer

end GuidedSynthesis
