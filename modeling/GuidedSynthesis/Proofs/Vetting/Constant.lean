import GuidedSynthesis.Distinct
import GuidedSynthesis.Proofs.Diagnostic.Located
import GuidedSynthesis.Proofs.Syntax.Pieces
import GuidedSynthesis.Vetting.Constant
/-!
What the check of a constant expression reports.

`Expr.offenders` lists the rejected expressions from left to right, with no report kept: an
expression contributes nothing, what its children contribute, or itself (`ExprKind.standing`). Main
statement (`vet_eq_map_firstsBy_offenders`): the diagnostics are those of the offenders, of several
with one source text the first, and no two of them read the same.

## How the proof goes

The check goes through the children of an expression that is judged by its parts, in their order
(`check_eq`). That is the one place where the kinds are looked at. It follows that a whole check is
a fold of `Report.reject` over the offenders (`check_eq_foldl_reject`), and such a fold keeps the
first of those with one text (`diagnostics_foldl_reject`). That messages differ is left to
`message_errorAt_inj`: from two equal messages the ranges and the quoted texts can be read off.
-/

namespace GuidedSynthesis

/-! ## 1. Offenders -/

/-- How an expression stands to being constant. -/
inductive Standing where
  | accepted
  | byParts
  | rejected
  deriving DecidableEq, Repr

/-- `isConstant` tells whether the reference of the expression at hand names a constant. -/
def ExprKind.standing (isConstant : NameReference → Bool) : ExprKind → Standing
  | literal _ | nil | builtinType _ | singletonType _ => .accepted
  | template _ interpolations => if interpolations = [] then .accepted else .rejected
  | nameRef reference => if isConstant reference then .accepted else .rejected
  | binary .. | conditional .. | braced _ | unary .. | typeCast .. | typeTest .. | typeof _
  | fieldAccess .. | optionalFieldAccess .. | indexed .. | listConstructor _ | tableConstructor _
  | mappingConstructor _ => .byParts
  | _ => .rejected

theorem MappingField.sizeOf_lt_of_mem_exprs {f : MappingField} {c : Expr} (h : c ∈ f.exprs) :
    sizeOf c < sizeOf f := by
  cases f <;> simp only [MappingField.exprs] at h <;> grind

theorem PromptPart.sizeOf_lt_of_interpolation {p : PromptPart} {c : Expr}
    (h : p.interpolation? = some c) : sizeOf c < sizeOf p := by
  cases p <;> grind [PromptPart.interpolation?]

theorem ExprKind.sizeOf_lt_of_mem_children {k : ExprKind} {c : Expr} (h : c ∈ k.children) :
    sizeOf c < sizeOf k := by
  cases k <;> simp only [ExprKind.children] at h <;>
    grind [→ List.sizeOf_lt_of_mem, → MappingField.sizeOf_lt_of_mem_exprs,
      → PromptPart.sizeOf_lt_of_interpolation, sizeOf_snd_lt]

theorem Expr.sizeOf_lt_of_mem_children {e c : Expr} (h : c ∈ e.children) :
    sizeOf c < sizeOf e := by
  obtain ⟨kind, source, range⟩ := e
  have hlt := ExprKind.sizeOf_lt_of_mem_children h
  simp only [Expr.kind] at hlt
  simp only [Expr.mk.sizeOf_spec]
  omega

/-- The rejected expressions of an expression, from left to right. -/
def Expr.offenders (test : ConstantTest) (e : Expr) : List Expr :=
  match e.kind.standing (test e.range) with
  | .accepted => []
  | .byParts => e.children.attach.flatMap fun c => c.1.offenders test
  | .rejected => [e]
termination_by e
decreasing_by exact Expr.sizeOf_lt_of_mem_children c.2

theorem Expr.offenders_eq (test : ConstantTest) (e : Expr) :
    e.offenders test =
      match e.kind.standing (test e.range) with
      | .accepted => []
      | .byParts => e.children.flatMap (Expr.offenders test)
      | .rejected => [e] := by
  have hattach : e.children.attach.flatMap (fun c => c.1.offenders test) =
      e.children.flatMap (Expr.offenders test) := by
    rw [← List.flatMap_map, List.attach_map_subtype_val]
  rw [Expr.offenders, hattach]

/-! ## 2. The check is a fold over the offenders -/

section Check

variable (test : ConstantTest) (document : String)

theorem Expr.checkAll_eq_foldl (es : List Expr) (report : Constancy.Report) :
    Expr.checkAll test document es report =
      es.foldl (fun report e => e.check test document report) report := by
  induction es generalizing report with
  | nil => rfl
  | cons e es ih => rw [Expr.checkAll, ih, List.foldl_cons]

theorem MappingField.check_eq_foldl (f : MappingField) (report : Constancy.Report) :
    f.check test document report =
      f.exprs.foldl (fun report e => e.check test document report) report := by
  cases f <;> rfl

theorem MappingField.checkAll_eq_foldl (fs : List MappingField) (report : Constancy.Report) :
    MappingField.checkAll test document fs report =
      (fs.flatMap MappingField.exprs).foldl (fun report e => e.check test document report)
        report := by
  induction fs generalizing report with
  | nil => rfl
  | cons f fs ih =>
    rw [MappingField.checkAll, ih, List.flatMap_cons, List.foldl_append,
      MappingField.check_eq_foldl]

/-- What the check does with an expression is decided by how the expression stands to being
constant: nothing, a check of the children in order, or a rejection. -/
theorem Expr.check_eq (e : Expr) (report : Constancy.Report) :
    e.check test document report =
      match e.kind.standing (test e.range) with
      | .accepted => report
      | .byParts => e.children.foldl (fun report c => c.check test document report) report
      | .rejected => report.reject document e := by
  obtain ⟨kind, source, range⟩ := e
  cases kind with
  | template t interpolations =>
    cases interpolations <;> rfl
  | nameRef reference =>
    simp only [Expr.check, Expr.kind, Expr.range, ExprKind.standing]
    by_cases h : test range reference = true
    · simp only [h, if_true]
    · simp only [h, if_false, Bool.false_eq_true]
  | indexed container keys => exact Expr.checkAll_eq_foldl test document keys _
  | listConstructor items => exact Expr.checkAll_eq_foldl test document items _
  | tableConstructor items => exact Expr.checkAll_eq_foldl test document items _
  | mappingConstructor fields => exact MappingField.checkAll_eq_foldl test document fields _
  | _ => rfl

/-- A check takes the offenders into the report, one after the other. -/
theorem Expr.check_eq_foldl_reject (e : Expr) (report : Constancy.Report) :
    e.check test document report =
      (e.offenders test).foldl (Constancy.Report.reject document) report := by
  induction hn : sizeOf e using Nat.strongRecOn generalizing e report with
  | _ n ih =>
    subst hn
    rw [Expr.check_eq, Expr.offenders_eq]
    cases e.kind.standing (test e.range) with
    | accepted => rfl
    | rejected => rfl
    | byParts =>
      -- each child is smaller, and the report goes through the children from left to right
      have hchildren : ∀ cs : List Expr, (∀ c ∈ cs, sizeOf c < sizeOf e) → ∀ report,
          cs.foldl (fun report c => c.check test document report) report =
            (cs.flatMap (Expr.offenders test)).foldl (Constancy.Report.reject document)
              report := by
        intro cs hcs
        induction cs with
        | nil => exact fun _ => rfl
        | cons c cs ihcs =>
          intro report
          rw [List.foldl_cons, List.flatMap_cons, List.foldl_append,
            ih _ (hcs c List.mem_cons_self) c report rfl]
          exact ihcs (fun c hc => hcs c (List.mem_cons_of_mem _ hc)) _
      exact hchildren e.children (fun c hc => Expr.sizeOf_lt_of_mem_children hc) report

end Check

/-! ## 3. The report -/

namespace Constancy

/-- Taking in offenders one after the other keeps the first one with each text that was not reported
before. -/
theorem Report.diagnostics_foldl_reject (document : String) (es : List Expr) (report : Report) :
    (es.foldl (Report.reject document) report).diagnostics =
      report.diagnostics ++
        (firstsFrom Expr.source report.reported es).map (toDiagnostic document) := by
  induction es generalizing report with
  | nil => simp [firstsFrom]
  | cons e es ih =>
    rw [List.foldl_cons, ih, firstsFrom, Report.reject]
    split
    · rfl
    · rw [List.map_cons, List.append_assoc, List.singleton_append]

theorem vet_eq_map_firstsBy (model : SemanticModel) (document : String) (e : Expr) :
    vet model document e =
      (firstsBy Expr.source (e.offenders (namesConstant model document))).map
        (toDiagnostic document) := by
  rw [vet, Expr.check_eq_foldl_reject, Report.diagnostics_foldl_reject]
  rfl

/-- Diagnostics of one document that read the same are about expressions that read the same. -/
theorem source_eq_of_message_toDiagnostic_eq {document : String} {e e' : Expr}
    (h : (toDiagnostic document e).message = (toDiagnostic document e').message) :
    e.source = e'.source := by
  obtain ⟨-, hm⟩ := message_errorAt_inj h
  have hl := congrArg String.toList hm
  simpa [String.toList_append, String.toList_inj] using hl

theorem firstsBy_eq_nil_iff {es : List Expr} : firstsBy Expr.source es = [] ↔ es = [] := by
  cases es with
  | nil => exact iff_of_true rfl rfl
  | cons e es => simp [firstsBy, firstsFrom]

theorem nodup_messages_firstsBy (document : String) (es : List Expr) :
    ((firstsBy Expr.source es).map fun e => (toDiagnostic document e).message).Nodup := by
  have hsources : ((firstsBy Expr.source es).map Expr.source).Nodup := nodup_firstsFrom _ _ _
  refine List.pairwise_map.mpr ((List.pairwise_map.mp hsources).imp ?_)
  intro e e' hne hmessage
  exact hne (source_eq_of_message_toDiagnostic_eq hmessage)

/-- The diagnostics are those of the offenders, of several with one text the first, each at the
place of its offender. There is none exactly when there is no offender, and no two of them read the
same. -/
theorem vet_eq_map_firstsBy_offenders (model : SemanticModel) (document : String) (e : Expr) :
    vet model document e =
        (firstsBy Expr.source (e.offenders (namesConstant model document))).map
          (toDiagnostic document) ∧
      (vet model document e).map Diagnostic.location =
        (firstsBy Expr.source (e.offenders (namesConstant model document))).map
          (fun offender => some ⟨document, offender.range⟩) ∧
      (vet model document e = [] ↔ e.offenders (namesConstant model document) = []) ∧
      ((vet model document e).map Diagnostic.message).Nodup := by
  rw [vet_eq_map_firstsBy]
  refine ⟨rfl, ?_, ?_, ?_⟩
  · rw [List.map_map]
    rfl
  · rw [List.map_eq_nil_iff, firstsBy_eq_nil_iff]
  · rw [List.map_map]
    exact nodup_messages_firstsBy document _

end Constancy

end GuidedSynthesis
