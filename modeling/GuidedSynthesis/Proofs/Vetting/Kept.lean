import GuidedSynthesis.Proofs.Diagnostic.Merging
import GuidedSynthesis.Proofs.Vetting.Report
/-!
Which findings of the vetting are left when they are merged with what the host reports.

A merge tells diagnostics apart by their text alone. Of an import and of a reference the text names
the place, so no two of them at different places read alike. Of a declaration that is no function it
names the kind only: two declarations of one kind read alike wherever they stand
(`eq_or_kind_eq_of_message_eq`), and the later one is dropped. So a place that was found need not be
left in the merged list (`second_constant_is_dropped`); `merge_keeps_place_iff` says which places
are.

## How the proof goes

A diagnostic is left if it is the first of those that read like it (`Diagnostic.mem_merge_iff`).
Among the findings this is no condition on imports and references, and on a declaration it is one on
the declarations of its kind alone, since these come first in the report (`mem_dedup_vet_iff`).
-/

namespace GuidedSynthesis

namespace Structure

open Diagnostic (merge dedup)

/-! ## 1. Findings that read alike -/

/-- Findings that read alike are at one place, or they are declarations of one kind. -/
theorem eq_or_kind_eq_of_message_eq {document : String} {f g : Finding}
    (h : (f.toDiagnostic document).message = (g.toDiagnostic document).message) :
    f.range = g.range ∨ ∃ m n, f = .member m ∧ g = .member n ∧ m.kind = n.kind := by
  cases message_toDiagnostic_eq_iff.mp h with
  | member kind => exact .inr ⟨_, _, rfl, rfl, kind⟩
  | importing range _ | configurable range _ | moduleLevel range _ => exact .inl range

/-- A diagnostic is its text and its place. -/
theorem toDiagnostic_eq_iff {document : String} {f g : Finding} :
    f.toDiagnostic document = g.toDiagnostic document ↔
      (f.toDiagnostic document).message = (g.toDiagnostic document).message ∧
        f.range = g.range := by
  rw [Diagnostic.mk.injEq, Finding.location_toDiagnostic, Finding.location_toDiagnostic]
  simp

/-! ## 2. The first of those that read alike -/

/-- No declaration of the kind stands in front of the finding, unless it is at the same place. This
asks nothing of imports and references. -/
def Finding.Foremost (module : ModulePart) (f : Finding) : Prop :=
  ∀ m, f = .member m →
    (module.members.find? (·.kind = m.kind)).map Member.range = some m.range

variable {scope : Scope} {module : ModulePart}

theorem mem_findings_member {m : Member} :
    .member m ∈ findings scope module ↔ m ∈ module.members ∧ m.kind ≠ .functionDefinition := by
  rw [findings, filterMap_memberFinding?, filterMap_importFinding?]
  have hreferences : Finding.member m ∉
      (references module.walk).filterMap fun o => referenceFinding? scope o.1 o.2 := by
    intro hm
    obtain ⟨o, -, ho⟩ := List.mem_filterMap.mp hm
    cases referenceFinding?_eq_some_iff.mp ho
  rw [List.mem_append, List.mem_append, or_iff_left (not_or.mpr ⟨by simp, hreferences⟩)]
  simp

/-- Among the findings, the first to read like a declaration is the first declaration of its
kind. -/
theorem find?_vet_member {m : Member} (h : .member m ∈ findings scope module) :
    (vet scope module).find?
        (·.message = ((Finding.member m).toDiagnostic scope.document).message) =
      (module.members.find? (·.kind = m.kind)).map
        fun n => (Finding.member n).toDiagnostic scope.document := by
  obtain ⟨hm, hkind⟩ := mem_findings_member.mp h
  have hsame (n : Member) : (n.kind ≠ .functionDefinition ∧ n.kind = m.kind) ↔ n.kind = m.kind :=
    and_iff_right_of_imp fun heq => heq ▸ hkind
  have hfirst : (((module.members.filter (·.kind ≠ .functionDefinition)).map Finding.member).map
      (Finding.toDiagnostic scope.document)).find?
        (·.message = ((Finding.member m).toDiagnostic scope.document).message) =
      (module.members.find? (·.kind = m.kind)).map
        fun n => (Finding.member n).toDiagnostic scope.document := by
    rw [List.map_map, List.find?_map, List.find?_filter]
    simp only [Function.comp_def, message_member_eq_iff, decide_eq_true_eq, hsame]
  have hfound : (module.members.find? (·.kind = m.kind)).isSome = true :=
    List.find?_isSome.mpr ⟨m, hm, by simp⟩
  rw [vet, findings, filterMap_memberFinding?, List.map_append, List.find?_append, hfirst]
  exact Option.or_of_isSome (by rw [Option.isSome_map]; exact hfound)

/-- A finding is the first to read as it does, up to others that say the same of the same place,
exactly when it is foremost. -/
theorem find?_vet_iff {f : Finding} (h : f ∈ findings scope module) :
    (vet scope module).find? (·.message = (f.toDiagnostic scope.document).message) =
      some (f.toDiagnostic scope.document) ↔ f.Foremost module := by
  by_cases hf : ∀ m, f ≠ .member m
  · refine iff_of_true ?_ fun m hm => absurd hm (hf m)
    have hsome : ((vet scope module).find?
        (·.message = (f.toDiagnostic scope.document).message)).isSome = true :=
      List.find?_isSome.mpr ⟨_, List.mem_map_of_mem h, by simp⟩
    obtain ⟨d, hd⟩ := Option.isSome_iff_exists.mp hsome
    obtain ⟨g, hg, rfl⟩ := List.mem_map.mp (List.mem_of_find?_eq_some hd)
    have hmessage := by simpa using List.find?_some hd
    rw [hd, Option.some.injEq, toDiagnostic_eq_iff]
    refine ⟨hmessage, ?_⟩
    rcases eq_or_kind_eq_of_message_eq hmessage with hrange | ⟨-, m, -, hm, -⟩
    · exact hrange
    · exact absurd hm (hf m)
  · simp only [ne_eq, not_forall, not_not] at hf
    obtain ⟨m, rfl⟩ := hf
    rw [find?_vet_member h]
    constructor
    · rintro hfirst m' ⟨⟩
      obtain ⟨n, hn, heq⟩ := Option.map_eq_some_iff.mp hfirst
      have hrange : n.range = m.range := (toDiagnostic_eq_iff.mp heq).2
      rw [hn, Option.map_some, hrange]
    · intro hforemost
      obtain ⟨n, hn, hrange⟩ := Option.map_eq_some_iff.mp (hforemost m rfl)
      have hkind : n.kind = m.kind := by simpa using List.find?_some hn
      rw [hn, Option.map_some, Option.some.injEq, toDiagnostic_eq_iff]
      exact ⟨message_member_eq_iff.mpr hkind, hrange⟩

theorem mem_dedup_vet_iff {d : Diagnostic} :
    d ∈ dedup (vet scope module) ↔
      ∃ f ∈ findings scope module, f.toDiagnostic scope.document = d ∧ f.Foremost module := by
  rw [Diagnostic.mem_dedup_iff]
  constructor
  · intro hd
    obtain ⟨f, hf, rfl⟩ := List.mem_map.mp (List.mem_of_find?_eq_some hd)
    exact ⟨f, hf, rfl, (find?_vet_iff hf).mp hd⟩
  · rintro ⟨f, hf, rfl, hforemost⟩
    exact (find?_vet_iff hf).mpr hforemost

/-! ## 3. What is left -/

variable {host : List Diagnostic}

/-- Of a finding the host's word stands, if the host says the same. -/
theorem toDiagnostic_mem_merge_iff {f : Finding} (h : f ∈ findings scope module) :
    f.toDiagnostic scope.document ∈ merge host (vet scope module) ↔
      (∃ d, host.find? (·.message = (f.toDiagnostic scope.document).message) = some d ∧
        d.location = some ⟨scope.document, f.range⟩) ∨
      f.Foremost module ∧ ∀ d ∈ host, d.message ≠ (f.toDiagnostic scope.document).message := by
  have hhost : f.toDiagnostic scope.document ∈ dedup host ↔
      ∃ d, host.find? (·.message = (f.toDiagnostic scope.document).message) = some d ∧
        d.location = some ⟨scope.document, f.range⟩ := by
    rw [Diagnostic.mem_dedup_iff]
    constructor
    · intro hfirst
      exact ⟨_, hfirst, f.location_toDiagnostic scope.document⟩
    · rintro ⟨d, hd, hlocation⟩
      have hmessage : d.message = (f.toDiagnostic scope.document).message := by
        simpa using List.find?_some hd
      rw [hd, Option.some.injEq, Diagnostic.mk.injEq]
      exact ⟨hmessage, hlocation.trans (f.location_toDiagnostic scope.document).symm⟩
  rw [Diagnostic.mem_merge_iff, hhost, Diagnostic.mem_dedup_iff, find?_vet_iff h]

theorem exists_mem_merge_iff (range : Range) :
    (∃ d ∈ merge host (vet scope module), d.location = some ⟨scope.document, range⟩) ↔
      (∃ d ∈ dedup host, d.location = some ⟨scope.document, range⟩) ∨
      ∃ f ∈ findings scope module, f.range = range ∧ f.Foremost module ∧
        ∀ d ∈ host, d.message ≠ (f.toDiagnostic scope.document).message := by
  simp only [Diagnostic.mem_merge_iff, mem_dedup_vet_iff]
  constructor
  · rintro ⟨d, hd | ⟨⟨f, hf, rfl, hforemost⟩, hhost⟩, hlocation⟩
    · exact .inl ⟨d, hd, hlocation⟩
    · rw [Finding.location_toDiagnostic] at hlocation
      have hrange : f.range = range := by simpa using hlocation
      exact .inr ⟨f, hf, hrange, hforemost, hhost⟩
  · rintro (⟨d, hd, hlocation⟩ | ⟨f, hf, rfl, hforemost, hhost⟩)
    · exact ⟨d, .inl hd, hlocation⟩
    · exact ⟨_, .inr ⟨⟨f, hf, rfl, hforemost⟩, hhost⟩, f.location_toDiagnostic scope.document⟩

/-- What a merge with the host's diagnostics leaves of the findings of a module. Findings that read
alike are at one place or are declarations of one kind. The diagnostic of a finding is left exactly
when the host, where it says the same, says it of the same place first, and otherwise the finding is
foremost. And a place is left exactly when the host's diagnostics keep it or it is that of a
foremost finding of which the host does not say the same. -/
theorem merge_keeps_place_iff (scope : Scope) (module : ModulePart) (host : List Diagnostic) :
    (∀ f g : Finding,
      (f.toDiagnostic scope.document).message = (g.toDiagnostic scope.document).message →
        f.range = g.range ∨ ∃ m n, f = .member m ∧ g = .member n ∧ m.kind = n.kind) ∧
    (∀ f ∈ findings scope module,
      (f.toDiagnostic scope.document ∈ merge host (vet scope module) ↔
        (∃ d, host.find? (·.message = (f.toDiagnostic scope.document).message) = some d ∧
          d.location = some ⟨scope.document, f.range⟩) ∨
        f.Foremost module ∧
          ∀ d ∈ host, d.message ≠ (f.toDiagnostic scope.document).message)) ∧
    ∀ range,
      ((∃ d ∈ merge host (vet scope module), d.location = some ⟨scope.document, range⟩) ↔
        (∃ d ∈ dedup host, d.location = some ⟨scope.document, range⟩) ∨
        ∃ f ∈ findings scope module, f.range = range ∧ f.Foremost module ∧
          ∀ d ∈ host, d.message ≠ (f.toDiagnostic scope.document).message) := by
  refine ⟨?_, ?_, ?_⟩
  · intro f g h
    exact eq_or_kind_eq_of_message_eq h
  · intro f hf
    exact toDiagnostic_mem_merge_iff hf
  · intro range
    exact exists_mem_merge_iff range

/-- A declaration of a constant on a line of its own. -/
def constantOn (line : UInt32) (name : String) : Member :=
  ⟨.constDeclaration, some name, [], [], none, ⟨⟨line, 0⟩, ⟨line, 14⟩⟩⟩

/-- Of two constants the second one is not told. -/
theorem second_constant_is_dropped :
    ¬ ∀ (scope : Scope) (module : ModulePart) (host : List Diagnostic),
      ∀ f ∈ findings scope module, ∃ d ∈ merge host (vet scope module),
        d.location = some ⟨scope.document, f.range⟩ := by
  intro h
  let scope : Scope := ⟨.empty, "functions_g.bal", "acme"⟩
  let module : ModulePart := ⟨[], [constantOn 0 "LOW", constantOn 1 "HIGH"]⟩
  have hfindings : findings scope module =
      [.member (constantOn 0 "LOW"), .member (constantOn 1 "HIGH")] := rfl
  have hfound : Finding.member (constantOn 1 "HIGH") ∈ findings scope module := by
    simp [hfindings]
  rcases (exists_mem_merge_iff _).mp (h scope module [] _ hfound) with
    ⟨d, hd, -⟩ | ⟨f, hf, hrange, hforemost, -⟩
  · cases hd
  · rw [hfindings, List.mem_cons, List.mem_singleton] at hf
    rcases hf with rfl | rfl
    · exact absurd hrange (by decide)
    · exact absurd (hforemost _ rfl) (by decide)

end Structure

end GuidedSynthesis
