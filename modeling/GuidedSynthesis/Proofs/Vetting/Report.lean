import GuidedSynthesis.Proofs.Diagnostic.Located
import GuidedSynthesis.Proofs.Syntax.Order
import GuidedSynthesis.Proofs.Vetting.Structure
import Mathlib.Data.List.Forall2
/-!
What the vetting of a generated module reports.

The report is complete and in order (`vet_reports_each`): first every declaration that is no
function, then every import from elsewhere, then every forbidden reference as it stands in the tree,
once for each time it stands there. Nothing is reported twice for one of them, nothing is left out
because it was reported before, and nothing else is reported.

What is said of a forbidden reference follows from the symbol that it names there
(`Scope.Faults`): that it is set from outside or, only if it is not, that it is declared at module
level. Which of the two it is can be told from the text, as can every kind of finding
(`message_toDiagnostic_eq_iff`).
-/

namespace GuidedSynthesis

theorem MemberKind.text_inj {a b : MemberKind} (h : a.text = b.text) : a = b := by
  revert h
  cases a <;> cases b <;> decide

namespace Structure

/-! ## 1. Rules -/

/-- An import from an organization that is neither the package's own nor one of the platform's. -/
def IsForeign (organization : String) (i : Import) : Prop :=
  ∃ origin, i.organization = some origin ∧
    origin ≠ organization ∧ origin ≠ "ballerina" ∧ origin ≠ "ballerinax"

theorem isForeign_iff {organization : String} {i : Import} :
    IsForeign organization i ↔ isAllowedImport organization i = false := by
  rw [← Bool.not_eq_true, isAllowedImport_iff, IsForeign]
  cases i.organization <;> simp

instance (organization : String) (i : Import) : Decidable (IsForeign organization i) :=
  decidable_of_iff _ isForeign_iff.symm

/-- The reference names a variable or a parameter. -/
def Scope.Names (scope : Scope) (e : Expr) (r : NameReference) (symbol : Symbol) : Prop :=
  scope.model.resolve scope.document r e.range = some symbol ∧
    (symbol.kind = .variable ∨ symbol.kind = .parameter)

/-- What is to be said of a reference. -/
inductive Scope.Faults (scope : Scope) : Expr × NameReference → Finding → Prop where
  | configurable {e : Expr} {r : NameReference} {symbol : Symbol} (names : scope.Names e r symbol)
      (outside : .configurable ∈ symbol.qualifiers) : Faults scope (e, r) (.configurable e r)
  | moduleLevel {e : Expr} {r : NameReference} {symbol : Symbol} (names : scope.Names e r symbol)
      (inside : .configurable ∉ symbol.qualifiers) (declared : symbol ∈ scope.model.moduleSymbols) :
      Faults scope (e, r) (.moduleLevel e r)

theorem forbids_iff {scope : Scope} {e : Expr} {r : NameReference} :
    scope.Forbids e r ↔ (referenceFinding? scope e r).isSome = true := by
  rw [← not_iff_not, ← referenceFinding?_eq_none_iff, Bool.not_eq_true,
    Option.isSome_eq_false_iff, Option.isNone_iff_eq_none]

instance (scope : Scope) (e : Expr) (r : NameReference) : Decidable (scope.Forbids e r) :=
  decidable_of_iff _ forbids_iff.symm

theorem isVariable_iff {symbol : Symbol} :
    symbol.isVariable = true ↔ symbol.kind = .variable ∨ symbol.kind = .parameter := by
  rw [Symbol.isVariable, Bool.or_eq_true, decide_eq_true_eq, decide_eq_true_eq]

theorem isConfigurable_iff {symbol : Symbol} (h : symbol.isVariable = true) :
    symbol.isConfigurable = true ↔ .configurable ∈ symbol.qualifiers := by
  rw [Symbol.isConfigurable, h, Bool.true_and, List.contains_iff_mem]

/-- Of a reference it is said what is to be said. -/
theorem referenceFinding?_eq_some_iff {scope : Scope} {e : Expr} {r : NameReference}
    {finding : Finding} :
    referenceFinding? scope e r = some finding ↔ scope.Faults (e, r) finding := by
  constructor
  · intro h
    rw [referenceFinding?] at h
    split at h
    · cases h
    rename_i symbol hresolve
    split at h
    · cases h
    rename_i hvariable
    rw [Bool.not_eq_true, Bool.not_eq_false'] at hvariable
    have names : scope.Names e r symbol := ⟨hresolve, isVariable_iff.mp hvariable⟩
    split at h
    · rename_i hconfigurable
      cases h
      exact .configurable names ((isConfigurable_iff hvariable).mp hconfigurable)
    rename_i hconfigurable
    split at h
    · rename_i hdeclared
      cases h
      refine .moduleLevel names ?_ (List.contains_iff_mem.mp hdeclared)
      rwa [← isConfigurable_iff hvariable]
    · cases h
  · intro h
    cases h with
    | configurable names outside =>
      have hvariable := isVariable_iff.mpr names.2
      simp [referenceFinding?, names.1, hvariable, (isConfigurable_iff hvariable).mpr outside]
    | moduleLevel names inside declared =>
      have hvariable := isVariable_iff.mpr names.2
      rw [← isConfigurable_iff hvariable] at inside
      simp [referenceFinding?, names.1, hvariable, inside, declared]

/-! ## 2. What is written of a finding -/

/-- Of both findings the same is written: they are of one sort, and the same are of a declaration its
kind, of an import its place and its source, and of a reference its place and its name. -/
inductive Finding.ReadsAs : Finding → Finding → Prop where
  | member {m n : Member} (kind : m.kind = n.kind) : ReadsAs (.member m) (.member n)
  | importing {i j : Import} (range : i.range = j.range) (source : i.source = j.source) :
      ReadsAs (.importing i) (.importing j)
  | configurable {e e' : Expr} {r r' : NameReference} (range : e.range = e'.range)
      (text : r.text = r'.text) : ReadsAs (.configurable e r) (.configurable e' r')
  | moduleLevel {e e' : Expr} {r r' : NameReference} (range : e.range = e'.range)
      (text : r.text = r'.text) : ReadsAs (.moduleLevel e r) (.moduleLevel e' r')

/-- A finding is located at what it is about. -/
theorem Finding.location_toDiagnostic (document : String) (finding : Finding) :
    (finding.toDiagnostic document).location = some ⟨document, finding.range⟩ := by
  cases finding <;> rfl

/-- The two wordings differ in their second letter. -/
theorem message_member_ne_message_errorAt (document text : String) (m : Member) (range : Range) :
    ((Finding.member m).toDiagnostic document).message ≠
      (Diagnostic.errorAt document range text).message := by
  have hmember : ((Finding.member m).toDiagnostic document).message.toList[1]? = some 'r' := by
    show (_ ++ _ : String).toList[1]? = _
    simp only [String.toList_append, List.append_assoc]
    rw [List.getElem?_append_left (by decide +kernel)]
    decide +kernel
  have hlocated : (Diagnostic.errorAt document range text).message.toList[1]? = some 'R' := by
    simp only [Diagnostic.errorAt, String.toList_append, List.append_assoc]
    rw [List.getElem?_append_left (by decide)]
    rfl
  intro h
  rw [h, hlocated] at hmember
  exact absurd hmember (by decide)

theorem message_member_eq_iff {document : String} {m n : Member} :
    ((Finding.member m).toDiagnostic document).message =
      ((Finding.member n).toDiagnostic document).message ↔ m.kind = n.kind := by
  show (_ ++ _ : String) = _ ++ _ ↔ _
  rw [String.append_right_inj]
  exact ⟨MemberKind.text_inj, congrArg MemberKind.text⟩

/-- Located wordings with one beginning and one end. -/
theorem message_errorAt_wording_eq_iff {document opening closing x y : String} {r s : Range} :
    (Diagnostic.errorAt document r (opening ++ x ++ closing)).message =
      (Diagnostic.errorAt document s (opening ++ y ++ closing)).message ↔ r = s ∧ x = y := by
  constructor
  · intro h
    obtain ⟨hrange, htext⟩ := message_errorAt_inj h
    rw [String.append_left_inj, String.append_right_inj] at htext
    exact ⟨hrange, htext⟩
  · rintro ⟨rfl, rfl⟩
    rfl

/-- Located wordings that start with different letters. -/
theorem message_errorAt_ne {document : String} {first second : String} {r s : Range}
    (h : first.toList.head? ≠ second.toList.head?) :
    (Diagnostic.errorAt document r first).message ≠
      (Diagnostic.errorAt document s second).message := by
  intro heq
  rw [(message_errorAt_inj heq).2] at h
  exact h rfl

/-- From the text of a finding its sort can be told, and what the text names. -/
theorem message_toDiagnostic_eq_iff {document : String} {f g : Finding} :
    (f.toDiagnostic document).message = (g.toDiagnostic document).message ↔ f.ReadsAs g := by
  constructor
  · intro h
    cases f with
    | member m =>
      cases g with
      | member n => exact .member (message_member_eq_iff.mp h)
      | _ => exact absurd h (message_member_ne_message_errorAt document _ m _)
    | importing i =>
      cases g with
      | member n => exact absurd h.symm (message_member_ne_message_errorAt document _ n _)
      | importing j =>
        obtain ⟨range, source⟩ := message_errorAt_wording_eq_iff.mp h
        exact .importing range source
      | _ => exact absurd h (message_errorAt_ne (by simp [String.toList_append]))
    | configurable e r =>
      cases g with
      | member n => exact absurd h.symm (message_member_ne_message_errorAt document _ n _)
      | configurable e' r' =>
        obtain ⟨range, text⟩ := message_errorAt_wording_eq_iff.mp h
        exact .configurable range text
      | _ => exact absurd h (message_errorAt_ne (by simp [String.toList_append]))
    | moduleLevel e r =>
      cases g with
      | member n => exact absurd h.symm (message_member_ne_message_errorAt document _ n _)
      | moduleLevel e' r' =>
        obtain ⟨range, text⟩ := message_errorAt_wording_eq_iff.mp h
        exact .moduleLevel range text
      | _ => exact absurd h (message_errorAt_ne (by simp [String.toList_append]))
  · intro h
    cases h with
    | member kind => exact message_member_eq_iff.mpr kind
    | importing range source => exact message_errorAt_wording_eq_iff.mpr ⟨range, source⟩
    | configurable range text => exact message_errorAt_wording_eq_iff.mpr ⟨range, text⟩
    | moduleLevel range text => exact message_errorAt_wording_eq_iff.mpr ⟨range, text⟩

/-! ## 3. The report -/

/-- What is picked from a list one by one stands over against what it is picked for. -/
theorem forall₂_filterMap {α β : Type} {pick : α → Option β} {picked : α → Prop}
    [DecidablePred picked] (h : ∀ a, picked a ↔ (pick a).isSome = true) (xs : List α) :
    List.Forall₂ (fun a b => pick a = some b) (xs.filter picked) (xs.filterMap pick) := by
  induction xs with
  | nil => exact .nil
  | cons a xs ih =>
    cases hpick : pick a with
    | none =>
      rw [List.filter_cons_of_neg (by simp [h, hpick]), List.filterMap_cons_none hpick]
      exact ih
    | some b =>
      rw [List.filter_cons_of_pos (by simp [h, hpick]), List.filterMap_cons_some hpick]
      exact .cons hpick ih

theorem filterMap_memberFinding? (members : List Member) :
    members.filterMap memberFinding? =
      (members.filter (·.kind ≠ .functionDefinition)).map .member := by
  rw [← List.filterMap_eq_filter, List.map_filterMap]
  refine List.filterMap_congr fun m _ => ?_
  by_cases h : m.kind = .functionDefinition <;> simp [memberFinding?, Option.guard, h]

theorem filterMap_importFinding? (organization : String) (imports : List Import) :
    imports.filterMap (importFinding? organization) =
      (imports.filter (IsForeign organization)).map .importing := by
  rw [← List.filterMap_eq_filter, List.map_filterMap]
  refine List.filterMap_congr fun i _ => ?_
  cases h : isAllowedImport organization i <;> simp [importFinding?, Option.guard, isForeign_iff, h]

theorem Scope.Faults.unique {scope : Scope} {o : Expr × NameReference} {f g : Finding}
    (hf : scope.Faults o f) (hg : scope.Faults o g) : f = g := by
  rw [← referenceFinding?_eq_some_iff] at hf hg
  exact Option.some.inj (hf.symm.trans hg)

theorem not_faults_twice (scope : Scope) (o : Expr × NameReference) :
    ¬ (scope.Faults o (.configurable o.1 o.2) ∧ scope.Faults o (.moduleLevel o.1 o.2)) :=
  fun h => nomatch h.1.unique h.2

theorem forall₂_faults (scope : Scope) (os : List (Expr × NameReference)) :
    List.Forall₂ scope.Faults (os.filter fun o => scope.Forbids o.1 o.2)
      (os.filterMap fun o => referenceFinding? scope o.1 o.2) := by
  have hpicked (o : Expr × NameReference) :
      scope.Forbids o.1 o.2 ↔ (referenceFinding? scope o.1 o.2).isSome = true := forbids_iff
  exact (forall₂_filterMap hpicked os).imp fun _ _ => referenceFinding?_eq_some_iff.mp

/-- The report of a module: its declarations that are no functions, its imports from elsewhere, and
what is to be said of the forbidden ones among the references that the walk meets, each in order and
as often as it is there. The walk meets the references as they stand in the tree; never are both
things to be said of one of them; every finding is located at what it is about; and from the text of
a finding it can be told which of these it is. -/
theorem vet_reports_each (scope : Scope) (module : ModulePart) : ∃ found : List Finding,
    vet scope module =
      ((module.members.filter (·.kind ≠ .functionDefinition)).map Finding.member ++
        ((module.imports.filter (IsForeign scope.organization)).map Finding.importing ++
          found)).map (Finding.toDiagnostic scope.document) ∧
    List.Forall₂ scope.Faults
      ((references module.walk).filter fun o => scope.Forbids o.1 o.2) found ∧
    found.length = (references module.walk).countP (fun o => scope.Forbids o.1 o.2) ∧
    references module.walk = module.references ∧
    (∀ o, ¬ (scope.Faults o (.configurable o.1 o.2) ∧ scope.Faults o (.moduleLevel o.1 o.2))) ∧
    (∀ finding : Finding,
      (finding.toDiagnostic scope.document).location = some ⟨scope.document, finding.range⟩) ∧
    ∀ f g : Finding, (f.toDiagnostic scope.document).message =
      (g.toDiagnostic scope.document).message ↔ f.ReadsAs g := by
  have hfaults := forall₂_faults scope (references module.walk)
  refine ⟨_, ?_, hfaults, ?_, references_walk module, not_faults_twice scope,
    Finding.location_toDiagnostic scope.document, fun _ _ => message_toDiagnostic_eq_iff⟩
  · rw [vet, findings, filterMap_memberFinding?, filterMap_importFinding?]
  · rw [List.countP_eq_length_filter]
    exact hfaults.length_eq.symm

end Structure

end GuidedSynthesis
