import GuidedSynthesis.Proofs.Synthesis.Passes
/-!
Runs under different ceilings.

A higher ceiling only lets a run go on. The calls that a run makes under one ceiling are the first
ones that it makes under a higher ceiling, and a run that is settled, because nothing is left to be
said about the code or because a call failed, is the same run under every higher ceiling
(`carryOut_extendedBy`).

## How the proof goes

`Run.ExtendedBy` says this of any two runs, and a common first part may stand before both
(`Run.ExtendedBy.bind`). So only the loop is compared, turn by turn (`Converges.raise`): a turn of
the lower loop is a turn of the higher one, but for the last turn of a loop with no repair left,
after which the higher loop goes on in whatever way (`Converges.prefix_of_validate`).
-/

namespace GuidedSynthesis

/-- No further repair would change the result. -/
def Settled : Result GenerationOutcome → Prop
  | .ok outcome => outcome.converged = true
  | .error _ => True

/-! ## 1. Runs that go on -/

namespace Run

/-- The calls of the one run are the first calls of the other, and a settled run is no other. -/
def ExtendedBy (short long : Run GenerationOutcome) : Prop :=
  ∀ before, (short before).2 <+: (long before).2 ∧
    (Settled (short before).1 → long before = short before)

theorem ExtendedBy.bind {first : Run α} {short long : α → Run GenerationOutcome}
    (h : ∀ a, (short a).ExtendedBy (long a)) : (first >>= short).ExtendedBy (first >>= long) := by
  intro before
  match hfirst : first before with
  | (.error failure, after) =>
    rw [bind_of_error hfirst, bind_of_error hfirst]
    exact ⟨List.prefix_rfl, fun _ => rfl⟩
  | (.ok a, after) =>
    rw [bind_of_ok hfirst, bind_of_ok hfirst]
    exact h a after

end Run

namespace Synthesizer

/-- The same with another ceiling. -/
def withMaxRepairs (s : Synthesizer) (maxRepairs : Nat) : Synthesizer := { s with maxRepairs }

variable {s : Synthesizer} {target : Target} {useCase : String}

/-! ## 2. The loop -/

/-- A loop makes the calls of its first validation and none of them is taken back. -/
theorem Converges.prefix_of_validate {p : Progress} {before middle after : List Call}
    {found : List Diagnostic} {result : Result GenerationOutcome}
    (h : s.Converges target useCase p before result after)
    (validated : s.validate target p.sources p.generated.code before = (.ok found, middle)) :
    middle <+: after := by
  cases h with
  | broken validated' | clean validated' | exhausted validated' _ _ =>
    obtain ⟨-, rfl⟩ := Prod.mk.inj (validated.symm.trans validated')
    exact List.prefix_rfl
  | unrepaired validated' _ _ _ =>
    obtain ⟨-, rfl⟩ := Prod.mk.inj (validated.symm.trans validated')
    exact List.prefix_append _ _
  | repaired validated' _ _ _ rest =>
    obtain ⟨-, rfl⟩ := Prod.mk.inj (validated.symm.trans validated')
    obtain ⟨made, _, _, rfl, -⟩ := rest.tally
    exact (List.prefix_append _ _).trans (List.prefix_append _ _)

theorem canRepair_of_le {state : RetryState} {n m : Nat} (hle : n ≤ m)
    (h : state.canRepair n = true) : state.canRepair m = true := by
  rw [RetryState.canRepair, decide_eq_true_eq] at h ⊢
  omega

theorem Converges.raise {n m : Nat} (hle : n ≤ m) {p : Progress} {before after : List Call}
    {result : Result GenerationOutcome}
    (h : (s.withMaxRepairs n).Converges target useCase p before result after) :
    ∃ result' after', (s.withMaxRepairs m).Converges target useCase p before result' after' ∧
      after <+: after' ∧ (Settled result → result' = result ∧ after' = after) := by
  induction h with
  | broken validated => exact ⟨_, _, .broken validated, List.prefix_rfl, fun _ => ⟨rfl, rfl⟩⟩
  | clean validated => exact ⟨_, _, .clean validated, List.prefix_rfl, fun _ => ⟨rfl, rfl⟩⟩
  | @exhausted p before after found validated nonempty _ =>
    -- the higher loop may have repairs left here, and is known by the calls before them only
    have hhigher : (s.withMaxRepairs m).Converges target useCase p before _ _ :=
      converge_eq_iff.mp rfl
    refine ⟨_, _, hhigher, hhigher.prefix_of_validate validated, ?_⟩
    intro hsettled
    exact absurd (List.isEmpty_iff.mp hsettled) nonempty
  | unrepaired validated nonempty allowed answer =>
    exact ⟨_, _, .unrepaired validated nonempty (canRepair_of_le hle allowed) answer,
      List.prefix_rfl, fun _ => ⟨rfl, rfl⟩⟩
  | repaired validated nonempty allowed answer _ ih =>
    obtain ⟨result', after', hrest, hcalls, hsettled⟩ := ih
    exact ⟨result', after',
      .repaired validated nonempty (canRepair_of_le hle allowed) answer hrest, hcalls, hsettled⟩

theorem converge_extendedBy {n m : Nat} (hle : n ≤ m) (p : Progress) :
    ((s.withMaxRepairs n).converge target useCase p).ExtendedBy
      ((s.withMaxRepairs m).converge target useCase p) := by
  intro before
  have hlower : (s.withMaxRepairs n).Converges target useCase p before _ _ := converge_eq_iff.mp rfl
  obtain ⟨result, after, hhigher, hcalls, hsettled⟩ := hlower.raise hle
  rw [hhigher.converge_eq]
  refine ⟨hcalls, fun h => ?_⟩
  obtain ⟨hresult, hafter⟩ := hsettled h
  exact Prod.ext hresult hafter

/-! ## 3. Runs -/

theorem synthesize_extendedBy {n m : Nat} (hle : n ≤ m) (sources : SourceSet) :
    ((s.withMaxRepairs n).synthesize target useCase sources).ExtendedBy
      ((s.withMaxRepairs m).synthesize target useCase sources) :=
  .bind fun _ => converge_extendedBy hle _

/-- A run under a higher ceiling makes the calls of the lower one first, with the same arguments,
and is the same run if the lower one comes to an outcome with nothing left to be said, or to a
failure. -/
theorem carryOut_extendedBy (s : Synthesizer) (task : Task) {n m : Nat} (hle : n ≤ m)
    (before : List Call) :
    ((s.withMaxRepairs n).carryOut task before).2 <+:
        ((s.withMaxRepairs m).carryOut task before).2 ∧
      (∀ outcome, ((s.withMaxRepairs n).carryOut task before).1 = .ok outcome →
        outcome.converged = true →
        (s.withMaxRepairs m).carryOut task before = (s.withMaxRepairs n).carryOut task before) ∧
      (∀ failure, ((s.withMaxRepairs n).carryOut task before).1 = .error failure →
        (s.withMaxRepairs m).carryOut task before = (s.withMaxRepairs n).carryOut task before) := by
  have hruns : ((s.withMaxRepairs n).carryOut task).ExtendedBy
      ((s.withMaxRepairs m).carryOut task) := by
    cases task with
    | function request => exact .bind fun _ => synthesize_extendedBy hle _
    | constant natural document model sources =>
      exact .bind fun _ => .bind fun _ => synthesize_extendedBy hle _
  obtain ⟨hcalls, hsettled⟩ := hruns before
  refine ⟨hcalls, ?_, ?_⟩
  · intro outcome hok hconverged
    refine hsettled ?_
    rw [hok]
    exact hconverged
  · intro failure herror
    refine hsettled ?_
    rw [herror]
    trivial

/-- One repair is enough for the numeral, so three repairs give the same run. -/
theorem carryOut_extendedBy_of_one_repair :
    1 ≤ 3 ∧ ∃ after,
      (withMaxRepairs ⟨onceWrong, numeralHost, 1⟩ 1).carryOut intTask [] =
        (.ok ⟨"1", none, 1, []⟩, after) ∧
      (withMaxRepairs ⟨onceWrong, numeralHost, 1⟩ 3).carryOut intTask [] =
        (.ok ⟨"1", none, 1, []⟩, after) := by
  let useCase := Prompt.constantUseCase ⟨"int"⟩ [] intModel "main.bal"
  have hloop : ∃ after, Converges ⟨onceWrong, numeralHost, 1⟩ intTask.target useCase
      ⟨.empty, ⟨"1 +", none⟩, .start⟩ [.generate useCase .empty] (.ok ⟨"1", none, 1, []⟩) after :=
    ⟨_, .repaired rfl (by decide) rfl rfl (.clean rfl)⟩
  obtain ⟨after, hconverges⟩ := hloop
  have hlower : (withMaxRepairs ⟨onceWrong, numeralHost, 1⟩ 1).carryOut intTask [] =
      (.ok ⟨"1", none, 1, []⟩, after) := hconverges.converge_eq
  have hle : 1 ≤ 3 := by decide
  obtain ⟨-, hconverged, -⟩ := carryOut_extendedBy ⟨onceWrong, numeralHost, 1⟩ intTask hle []
  have hhigher := hconverged ⟨"1", none, 1, []⟩ (congrArg Prod.fst hlower) rfl
  exact ⟨hle, after, hlower, hhigher.trans hlower⟩

end Synthesizer

end GuidedSynthesis
