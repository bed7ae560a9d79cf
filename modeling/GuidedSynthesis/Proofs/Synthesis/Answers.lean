import GuidedSynthesis.Proofs.Synthesis.Passes
/-!
What the answers to repairs make of the code.

A generator that takes the block of an answer as the repair (`TakesBlocks`), as every service does,
never loses code to an answer: one without a block leaves the code and the sources as they are and
counts all the same. So the code of an outcome is the last block that was answered or, without any,
the code that was generated first, and the helper functions are those of the first answer
(`outcome_of_answers`).

## How the proof goes

A loop that comes to an outcome is a first pass and some turns, each an answer and the pass after it
(`Answered`, `Converges.answered`). The code of the last pass is read off the answers by induction
on the turns (`Answered.code_last`). That these are all the answers of the run is said of its calls
(`Generator.answersTo`).
-/

namespace GuidedSynthesis

/-! ## 1. Blocks as repairs -/

/-- The repair that the generator reports is the block of code in the answer, if there is one. -/
def Generator.TakesBlocks (g : Generator) : Prop :=
  ∀ calls context, g.repair calls context = (g.requestRepair calls context).map Answer.code?

theorem Service.takesBlocks_generator (s : Service) (network : Network) :
    (s.generator network).TakesBlocks := fun _ _ => rfl

theorem Generator.TakesBlocks.answered {g : Generator} (hg : g.TakesBlocks) {calls : List Call}
    {context : RepairContext} {code : Option String} (h : g.repair calls context = .ok code) :
    ∃ answer, g.requestRepair calls context = .ok answer ∧ Answer.code? answer = code := by
  rw [hg calls context] at h
  match hr : g.requestRepair calls context with
  | .error failure =>
    rw [hr] at h
    exact nomatch h
  | .ok answer =>
    rw [hr] at h
    exact ⟨answer, rfl, Except.ok.inj h⟩

/-- The answers to the repairs among some calls, made after those before. -/
def Generator.answersTo (g : Generator) (before : List Call) : List Call → List (Result String)
  | [] => []
  | .repair context :: rest =>
    g.requestRepair before context :: g.answersTo (before ++ [.repair context]) rest
  | call :: rest => g.answersTo (before ++ [call]) rest

theorem Generator.answersTo_append (g : Generator) (before xs ys : List Call) :
    g.answersTo before (xs ++ ys) = g.answersTo before xs ++ g.answersTo (before ++ xs) ys := by
  induction xs generalizing before with
  | nil => rw [List.append_nil]; rfl
  | cons call xs ih =>
    have hnext := ih (before ++ [call])
    rw [List.append_assoc] at hnext
    cases call <;> simp [answersTo, hnext]

/-- Nothing is answered where nothing is asked for. -/
theorem Generator.answersTo_of_tally (g : Generator) (before : List Call) {calls : List Call}
    {generations readings : Nat} (h : Tally calls generations 0 readings) :
    g.answersTo before calls = [] := by
  have hnone := List.countP_eq_zero.mp h.repairs
  clear h
  induction calls generalizing before with
  | nil => rfl
  | cons call calls ih =>
    have hrest := ih (before ++ [call]) fun other hother =>
      hnone other (List.mem_cons_of_mem _ hother)
    have hcall := hnone call List.mem_cons_self
    cases call with
    | repair context => exact absurd rfl hcall
    | _ => exact hrest

/-! ## 2. Turns -/

/-- A turn of the loop after a first pass. -/
structure Turn where
  /-- The whole text that answers the repair. -/
  answer : String
  /-- The pass after it. -/
  pass : Pass

namespace Turn

/-- How a turn follows a pass. -/
structure Follows (s : Synthesizer) (target : Target) (p : Pass) (t : Turn) : Prop where
  /-- The answer is that to a repair, which is all that is asked for between the passes. -/
  answered : ∃ context, s.generator.requestRepair p.after context = .ok t.answer ∧
    t.pass.before = p.after ++ [.repair context]
  taken : ∀ code, Answer.code? t.answer = some code →
    t.pass.code = code ∧ t.pass.sources = target.takeIn p.sources code
  kept : Answer.code? t.answer = none → t.pass.code = p.code ∧ t.pass.sources = p.sources

end Turn

/-- A pass and the turns after it. -/
inductive Answered (s : Synthesizer) (target : Target) : Pass → List Turn → Prop where
  | last {p : Pass} (made : p.IsMadeBy s target) : Answered s target p []
  | turn {p : Pass} {t : Turn} {turns : List Turn} (made : p.IsMadeBy s target)
      (follows : t.Follows s target p) (rest : Answered s target t.pass turns) :
      Answered s target p (t :: turns)

/-- The last pass. -/
def lastPass (first : Pass) : List Turn → Pass
  | [] => first
  | t :: turns => lastPass t.pass turns

/-- The last block of code among some answers; the given code if there is none. -/
def lastBlock (code : String) (answers : List String) : String :=
  (answers.filterMap Answer.code?).getLast?.getD code

theorem lastBlock_cons_of_none {answer : String} (h : Answer.code? answer = none) (code : String)
    (answers : List String) : lastBlock code (answer :: answers) = lastBlock code answers := by
  rw [lastBlock, List.filterMap_cons_none h, lastBlock]

theorem lastBlock_cons_of_some {answer block : String} (h : Answer.code? answer = some block)
    (code : String) (answers : List String) :
    lastBlock code (answer :: answers) = lastBlock block answers := by
  rw [lastBlock, List.filterMap_cons_some h, List.getLast?_cons, Option.getD_some, lastBlock]

/-- The code of the last pass, whatever the answers are and in whatever order they come. -/
theorem Answered.code_last {s : Synthesizer} {target : Target} {first : Pass} {turns : List Turn}
    (h : Answered s target first turns) :
    (lastPass first turns).code = lastBlock first.code (turns.map Turn.answer) := by
  induction h with
  | last _ => rfl
  | @turn p t turns _ follows _ ih =>
    rw [lastPass, ih, List.map_cons]
    match hblock : Answer.code? t.answer with
    | none => rw [lastBlock_cons_of_none hblock, (follows.kept hblock).1]
    | some code => rw [lastBlock_cons_of_some hblock, (follows.taken code hblock).1]

/-! ## 3. The loop -/

namespace Synthesizer

variable {s : Synthesizer} {target : Target} {useCase : String}

/-- No repair touches the helper functions. -/
theorem Converges.auxiliaryFunctions_eq {p : Progress} {before after : List Call}
    {outcome : GenerationOutcome}
    (h : s.Converges target useCase p before (.ok outcome) after) :
    outcome.auxiliaryFunctions = p.generated.auxiliaryFunctions := by
  generalize hresult : Except.ok outcome = result at h
  induction h with
  | broken _ | unrepaired _ _ _ _ => exact nomatch hresult
  | clean _ | exhausted _ _ _ =>
    cases hresult
    rfl
  | @repaired _ _ _ _ _ code _ _ _ _ _ _ ih =>
    rw [ih hresult]
    cases code <;> rfl

/-- What is made of an answer is validated next. -/
theorem follows_of_accept {p : Progress} {before middle : List Call} {found : List Diagnostic}
    {answer : String} {context : RepairContext} {t : Turn}
    (hrequest : s.generator.requestRepair middle context = .ok answer)
    (hanswer : t.answer = answer)
    (hbefore : t.pass.before = middle ++ [.repair context])
    (hcode : t.pass.code = (p.accept target (Answer.code? answer)).generated.code)
    (hsources : t.pass.sources = (p.accept target (Answer.code? answer)).sources) :
    t.Follows s target ⟨p.sources, p.generated.code, found, before, middle⟩ := by
  subst hanswer
  refine ⟨⟨context, hrequest, hbefore⟩, ?_, ?_⟩
  · intro code hblock
    rw [hcode, hsources, hblock]
    exact ⟨rfl, rfl⟩
  · intro hblock
    rw [hcode, hsources, hblock]
    exact ⟨rfl, rfl⟩

/-- A loop that comes to an outcome is a first pass, about what the loop starts with, and a turn for
each repair. -/
theorem Converges.answered (hs : s.generator.TakesBlocks) {p : Progress} {before after : List Call}
    {outcome : GenerationOutcome}
    (h : s.Converges target useCase p before (.ok outcome) after) :
    ∃ first turns made, Answered s target first turns ∧
      first.before = before ∧ first.code = p.generated.code ∧ first.sources = p.sources ∧
      (lastPass first turns).code = outcome.code ∧ (lastPass first turns).after = after ∧
      outcome.repairAttempts = p.state.attempt + turns.length ∧
      after = before ++ made ∧
      s.generator.answersTo before made = turns.map fun t => .ok t.answer := by
  generalize hresult : Except.ok outcome = result at h
  induction h with
  | broken _ | unrepaired _ _ _ _ => exact nomatch hresult
  | @clean p before after validated =>
    cases hresult
    obtain ⟨made, hmade, htally, -⟩ := tally_validate validated
    exact ⟨⟨p.sources, p.generated.code, [], before, after⟩, [], made, .last validated, rfl, rfl,
      rfl, rfl, rfl, rfl, hmade, s.generator.answersTo_of_tally before htally⟩
  | @exhausted p before after found validated _ _ =>
    cases hresult
    obtain ⟨made, hmade, htally, -⟩ := tally_validate validated
    exact ⟨⟨p.sources, p.generated.code, found, before, after⟩, [], made, .last validated, rfl, rfl,
      rfl, rfl, rfl, rfl, hmade, s.generator.answersTo_of_tally before htally⟩
  | @repaired p before middle after found code _ validated _ _ hrepair _ ih =>
    obtain ⟨second, turns, more, hturns, hbefore, hcode, hsources, hlast, hafter, hattempts, hmore,
      hanswers⟩ := ih hresult
    obtain ⟨made, rfl, htally, -⟩ := tally_validate validated
    obtain ⟨answer, hrequest, rfl⟩ := hs.answered hrepair
    let first : Pass := ⟨p.sources, p.generated.code, found, before, before ++ made⟩
    let turn : Turn := ⟨answer, second⟩
    have hfollows : turn.Follows s target first :=
      follows_of_accept (p := p.observe found) hrequest rfl hbefore hcode hsources
    have hfirst : first.IsMadeBy s target := validated
    refine ⟨first, turn :: turns,
      made ++ .repair ((p.observe found).context target useCase) :: more,
      .turn hfirst hfollows hturns, rfl, rfl, rfl, hlast, hafter, ?_, ?_, ?_⟩
    · rw [hattempts, Progress.state_accept, List.length_cons]
      simp only [Progress.observe, RetryState.observe, RetryState.advance]
      omega
    · rw [hmore, List.append_assoc, List.append_assoc, List.singleton_append]
    · rw [Generator.answersTo_append, s.generator.answersTo_of_tally before htally, List.nil_append,
        Generator.answersTo, hrequest, hanswers, List.map_cons]

/-! ## 4. Runs -/

/-- What the answers of a run have led to, when the run starts with a code and goes through a first
pass and some turns. -/
structure AnswerLaw (s : Synthesizer) (target : Target) (before : List Call)
    (outcome : GenerationOutcome) (after : List Call) (g : GeneratedCode) (first : Pass)
    (turns : List Turn) : Prop where
  /-- The first pass is about the code that is generated first, and the turns have all the answers
  that are given after that. -/
  generated : ∃ useCase sources made, s.generator.generate before useCase sources = .ok g ∧
    first.before = before ++ [.generate useCase sources] ∧ first.code = g.code ∧
    first.sources = target.working sources g.code ∧ after = first.before ++ made ∧
    s.generator.answersTo first.before made = turns.map fun t => .ok t.answer
  answered : Answered s target first turns
  last : (lastPass first turns).code = outcome.code ∧ (lastPass first turns).after = after
  /-- Every answer counts, with a block or without. -/
  attempts : outcome.repairAttempts = turns.length
  code : outcome.code = lastBlock g.code (turns.map Turn.answer)
  auxiliaryFunctions : outcome.auxiliaryFunctions = g.auxiliaryFunctions

/-- Every service takes the block of an answer as the repair. With such a generator, whatever it
answers, a run that comes to an outcome has the last block among the answers as its code or, without
any, the code generated first; the helper functions are those that came with the latter. An answer
without a block has the same code and the same sources validated again (`Turn.Follows.kept`). -/
theorem outcome_of_answers :
    (∀ (service : Service) (network : Network), (service.generator network).TakesBlocks) ∧
    ∀ (s : Synthesizer) (task : Task) (before after : List Call) (outcome : GenerationOutcome),
      s.generator.TakesBlocks → s.carryOut task before = (.ok outcome, after) →
      ∃ g first turns, s.AnswerLaw task.target before outcome after g first turns := by
  refine ⟨Service.takesBlocks_generator, ?_⟩
  intro s task before after outcome hs hrun
  obtain ⟨failure, herror, -⟩ | ⟨useCase, sources, h⟩ := carryOut_cases hrun
  · exact nomatch herror
  obtain ⟨failure, -, herror, -⟩ | ⟨g, hgenerate, hloop⟩ := synthesize_cases h
  · exact nomatch herror
  obtain ⟨first, turns, made, hturns, hbefore, hcode, hsources, hlast, hafter, hattempts, hmade,
    hanswers⟩ := hloop.answered hs
  rw [← hbefore] at hmade hanswers
  rw [RetryState.start, Nat.zero_add] at hattempts
  refine ⟨g, first, turns, ⟨useCase, sources, made, hgenerate, hbefore, hcode, hsources, hmade,
    hanswers⟩, hturns, ⟨hlast, hafter⟩, hattempts, ?_, hloop.auxiliaryFunctions_eq⟩
  rw [← hlast, hturns.code_last, hcode]

/-! A run with two repairs, of which the first one is answered without a block. -/

/-- Writes `1 +` with a helper function. Has nothing to say to the first repair, and `1` to every
further one. -/
def onceSilent : Generator where
  name := "once silent"
  generate _ _ _ := .ok ⟨"1 +", some (.array [.string "helper"])⟩
  requestRepair calls _ :=
    .ok (if calls.any Call.isRepair then "```ballerina\n1\n```" else "The code is fine.")

theorem outcome_of_answers_of_silence :
    ∃ after first turns,
      onceSilent.TakesBlocks ∧
      carryOut ⟨onceSilent, numeralHost, 2⟩ intTask [] =
        (.ok ⟨"1", some (.array [.string "helper"]), 2, []⟩, after) ∧
      AnswerLaw ⟨onceSilent, numeralHost, 2⟩ intTask.target []
        ⟨"1", some (.array [.string "helper"]), 2, []⟩ after
        ⟨"1 +", some (.array [.string "helper"])⟩ first turns := by
  have hsilence : Answer.code? "The code is fine." = none := by decide
  have hblock : Answer.code? "```ballerina\n1\n```" = some "1" := by decide
  let useCase := Prompt.constantUseCase ⟨"int"⟩ [] intModel "main.bal"
  have hloop : ∃ after, Converges ⟨onceSilent, numeralHost, 2⟩ intTask.target useCase
      ⟨.empty, ⟨"1 +", some (.array [.string "helper"])⟩, .start⟩ [.generate useCase .empty]
      (.ok ⟨"1", some (.array [.string "helper"]), 2, []⟩) after :=
    ⟨_, .repaired rfl (by decide) rfl (congrArg Except.ok hsilence)
      (.repaired rfl (by decide) rfl (congrArg Except.ok hblock) (.clean rfl))⟩
  obtain ⟨after, hconverges⟩ := hloop
  have hrun : carryOut ⟨onceSilent, numeralHost, 2⟩ intTask [] =
      (.ok ⟨"1", some (.array [.string "helper"]), 2, []⟩, after) := hconverges.converge_eq
  have htakes : onceSilent.TakesBlocks := fun _ _ => rfl
  obtain ⟨g, first, turns, hlaw⟩ := outcome_of_answers.2 _ intTask [] after _ htakes hrun
  have hg : g = ⟨"1 +", some (.array [.string "helper"])⟩ := by
    obtain ⟨_, _, _, hgenerate, -⟩ := hlaw.generated
    cases hgenerate
    rfl
  rw [hg] at hlaw
  exact ⟨after, first, turns, htakes, hrun, hlaw⟩

end Synthesizer

end GuidedSynthesis
