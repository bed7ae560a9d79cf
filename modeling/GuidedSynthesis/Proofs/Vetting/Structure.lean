import GuidedSynthesis.Proofs.Syntax.Pieces
import GuidedSynthesis.Vetting.Structure
/-!
When the vetting of a generated module finds nothing.

`Structure.Permitted` says what a module is allowed to be, with the references that count as a
parameter: functions only, imports from allowed organizations, and no forbidden reference.

The vetting finds nothing exactly when the module is permitted as far as it is shown
(`vet_eq_nil_iff_permitted_shows`). A reference in the default of a parameter of an anonymous
function is not shown, and so the vetting is no test of every reference that is mentioned:
`forbidden_default_is_passed` gives a module that is passed although it refers to a variable that is
set from outside. `vet_eq_nil_iff_permitted` says for which modules it is such a test.
-/

namespace GuidedSynthesis.Structure

/-- The reference names a variable or parameter that is set from outside or declared at module
level. -/
def Scope.Forbids (scope : Scope) (e : Expr) (r : NameReference) : Prop :=
  ∃ symbol, scope.model.resolve scope.document r e.range = some symbol ∧
    symbol.isVariable = true ∧
    (symbol.isConfigurable = true ∨ symbol ∈ scope.model.moduleSymbols)

/-- What a generated module is allowed to be, where `refers` tells its references. -/
structure Permitted (scope : Scope) (module : ModulePart)
    (refers : Expr → NameReference → Prop) : Prop where
  functions : ∀ member ∈ module.members, member.kind = .functionDefinition
  imports : ∀ i ∈ module.imports, ∀ origin, i.organization = some origin →
    origin = scope.organization ∨ origin = "ballerina" ∨ origin = "ballerinax"
  references : ∀ e r, refers e r → ¬ scope.Forbids e r

/-! ## 1. The three rules -/

theorem memberFinding?_eq_none_iff {member : Member} :
    memberFinding? member = none ↔ member.kind = .functionDefinition := by
  rw [memberFinding?]
  split
  · exact iff_of_true rfl ‹_›
  · exact iff_of_false (by simp) ‹_›

theorem isAllowedImport_iff {organization : String} {i : Import} :
    isAllowedImport organization i = true ↔ ∀ origin, i.organization = some origin →
      origin = organization ∨ origin = "ballerina" ∨ origin = "ballerinax" := by
  rw [isAllowedImport]
  cases i.organization with
  | none => simp
  | some origin => simp [platformOrganizations]

theorem importFinding?_eq_none_iff {organization : String} {i : Import} :
    importFinding? organization i = none ↔ isAllowedImport organization i = true := by
  rw [importFinding?]
  split
  · exact iff_of_true rfl ‹_›
  · exact iff_of_false (by simp) ‹_›

theorem referenceFinding?_eq_none_iff {scope : Scope} {e : Expr} {r : NameReference} :
    referenceFinding? scope e r = none ↔ ¬ scope.Forbids e r := by
  rw [referenceFinding?, Scope.Forbids]
  cases scope.model.resolve scope.document r e.range with
  | none => simp
  | some symbol =>
    cases hv : symbol.isVariable <;> cases hc : symbol.isConfigurable <;> simp [hv, hc]

/-! ## 2. The vetting as a whole -/

theorem vet_eq_nil_iff_permitted_shows (scope : Scope) (module : ModulePart) :
    vet scope module = [] ↔ Permitted scope module module.Shows := by
  have hfindings : vet scope module = [] ↔
      (∀ member ∈ module.members, memberFinding? member = none) ∧
      (∀ i ∈ module.imports, importFinding? scope.organization i = none) ∧
      ∀ e r, (e, r) ∈ references module.walk → referenceFinding? scope e r = none := by
    rw [vet, List.map_eq_nil_iff, findings, List.append_eq_nil_iff, List.append_eq_nil_iff,
      List.filterMap_eq_nil_iff, List.filterMap_eq_nil_iff, List.filterMap_eq_nil_iff, Prod.forall]
  rw [hfindings]
  simp only [memberFinding?_eq_none_iff, importFinding?_eq_none_iff, isAllowedImport_iff,
    referenceFinding?_eq_none_iff, mem_references_walk_iff]
  constructor
  · rintro ⟨hmembers, himports, hreferences⟩
    exact ⟨hmembers, himports, hreferences⟩
  · rintro ⟨hmembers, himports, hreferences⟩
    exact ⟨hmembers, himports, hreferences⟩

/-! ## 3. References that are not shown -/

theorem Permitted.of_mentions {scope : Scope} {module : ModulePart}
    (h : Permitted scope module module.Mentions) : Permitted scope module module.Shows :=
  ⟨h.functions, h.imports, fun e r hshows => h.references e r hshows.mentions⟩

/-- The vetting finds nothing exactly when the module is permitted as far as it is shown; and that
tells whether the module is permitted altogether exactly for the modules in which no forbidden
reference stands in a parameter of an anonymous function only, and those that are not permitted for
another reason. -/
theorem vet_eq_nil_iff_permitted (scope : Scope) (module : ModulePart) :
    (vet scope module = [] ↔ Permitted scope module module.Shows) ∧
    ((vet scope module = [] ↔ Permitted scope module module.Mentions) ↔
      (Permitted scope module module.Shows →
        ∀ e r, module.Mentions e r → ¬ module.Shows e r → ¬ scope.Forbids e r)) := by
  refine ⟨vet_eq_nil_iff_permitted_shows scope module, ?_⟩
  rw [vet_eq_nil_iff_permitted_shows]
  constructor
  · intro hiff hshown e r hmentions _
    exact (hiff.mp hshown).references e r hmentions
  · intro hhidden
    refine ⟨fun hshown => ⟨hshown.functions, hshown.imports, fun e r hmentions => ?_⟩, .of_mentions⟩
    by_cases hshows : module.Shows e r
    · exact hshown.references e r hshows
    · exact hhidden hshown e r hmentions hshows

/-- A variable that is set from outside. -/
def apiKey : Symbol := ⟨"apiKey", .variable, [.configurable], none⟩

/-- `apiKey` at the place of its use. -/
def apiKeyReference : Expr := .mk (.nameRef ⟨none, "apiKey"⟩) "apiKey" ⟨⟨1, 34⟩, ⟨1, 40⟩⟩

/-- `function (string key = apiKey) {}`. -/
def anonymousFunction : Expr :=
  .mk (.function [.mk "key" "string" (some apiKeyReference)] [])
    "function (string key = apiKey) {}" ⟨⟨1, 11⟩, ⟨1, 44⟩⟩

theorem forbidden_default_is_passed :
    ¬ ∀ scope module, vet scope module = [] ↔ Permitted scope module module.Mentions := by
  intro h
  let scope : Scope := ⟨⟨fun _ _ _ => some apiKey, [apiKey], fun _ => none, fun _ => none⟩,
    "functions_fNPGenerated.bal", "acme"⟩
  let module : ModulePart := ⟨[], [⟨.functionDefinition, some "fNPGenerated", [],
    [.returning (some anonymousFunction)], none, ⟨⟨0, 0⟩, ⟨2, 1⟩⟩⟩]⟩
  have hpassed : vet scope module = [] := rfl
  have hholds : (Piece.statement (.returning (some anonymousFunction))).Holds
      (.expr apiKeyReference) :=
    .head (b := .expr anonymousFunction) List.mem_cons_self <|
    .head (b := .parameter (.mk "key" "string" (some apiKeyReference))) List.mem_cons_self <|
    .head List.mem_cons_self .refl
  have hmentions : module.Mentions apiKeyReference ⟨none, "apiKey"⟩ :=
    ⟨⟨_, List.mem_cons_self, _, List.mem_cons_self, hholds⟩, .inl rfl⟩
  have hforbidden : scope.Forbids apiKeyReference ⟨none, "apiKey"⟩ :=
    ⟨apiKey, rfl, rfl, .inl rfl⟩
  exact ((h scope module).mp hpassed).references _ _ hmentions hforbidden

end GuidedSynthesis.Structure
