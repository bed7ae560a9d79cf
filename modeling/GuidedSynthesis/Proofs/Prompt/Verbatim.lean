import GuidedSynthesis.Prompt
import GuidedSynthesis.Proofs.Text.Search
/-!
What is put into a prompt stands in it as it is.

The use case of a constant expression is a template with the expected type in it, and after it what
the parts of the natural expression contribute, one after the other: a text itself, a reference to a
constant the constant's value, and any other interpolation nothing (`Contributes`, `Renders`). The
type may hold the placeholder, and so may a text or a value; each of them stands in the use case as
it was given. So parts that come later only add to what the earlier ones gave, and interpolations
that contribute nothing can come and go (`put_in_verbatim`). The instructions to the model are a
template too, around the library reference.

## How the proof goes

A placeholder has no border and does not stand in the wording before it, since that wording lacks
one of its characters. Hence the place that is filled is the placeholder of the template
(`replaceFirst_append`), whatever is put there. What the parts contribute is an induction on their
list (`renders_iff`).
-/

namespace GuidedSynthesis.Prompt

/-! ## 1. The templates -/

/-- A literal is made of its characters, so what it lacks is seen without taking it apart. -/
theorem not_mem_literal {c : Char} {chars : List Char} (h : chars.all (· != c) = true) :
    c ∉ (String.ofList chars).toList := by
  intro hc
  rw [String.toList_ofList] at hc
  simpa using List.all_eq_true.mp h c hc

theorem not_mem_lined {c : Char} {lines : List String} (hend : c ≠ '\n')
    (hlines : ∀ line ∈ lines, c ∉ line.toList) : c ∉ (lined lines).toList := by
  induction lines with
  | nil => simp [lined]
  | cons line lines ih =>
    obtain ⟨hline, hlines⟩ := List.forall_mem_cons.mp hlines
    have htext : (lined (line :: lines)).toList = line.toList ++ '\n' :: (lined lines).toList := by
      simp [lined, String.toList_append]
    rw [htext]
    simp [hline, hend, ih hlines]

theorem brace_not_mem_beforeLibraries : '{' ∉ beforeLibraries.toList := by
  rw [beforeLibraries, String.toList_append, List.mem_append, not_or]
  refine ⟨not_mem_lined (by decide) ?_, not_mem_literal rfl⟩
  repeat refine List.forall_mem_cons.mpr ⟨not_mem_literal rfl, ?_⟩
  exact List.forall_mem_nil _

/-- The braces of the examples do not help here, but none of the lines has an underscore. -/
theorem underscore_not_mem_beforeExpectedType : '_' ∉ beforeExpectedType.toList := by
  rw [beforeExpectedType, String.toList_append, List.mem_append, not_or]
  refine ⟨not_mem_lined (by decide) ?_, not_mem_literal rfl⟩
  repeat refine List.forall_mem_cons.mpr ⟨not_mem_literal rfl, ?_⟩
  exact List.forall_mem_nil _

theorem systemInstructions_eq (libraries : String) :
    systemInstructions ⟨libraries⟩ = beforeLibraries ++ libraries ++ afterLibraries := by
  have hplaceholder : '{' ∈ librariesPlaceholder.toList := by decide
  exact Text.replaceFirst_append (by decide)
    (fun h => brace_not_mem_beforeLibraries (h.subset hplaceholder)) libraries afterLibraries

variable {expected : TypeDescriptor} {model : SemanticModel} {document : String}

theorem constantUseCase_eq (parts : List PromptPart) :
    constantUseCase expected parts model document =
      beforeExpectedType ++ expected.signature ++ afterExpectedType ++
        String.join (parts.map (partText model document)) := by
  have hplaceholder : '_' ∈ expectedTypePlaceholder.toList := by decide
  have hfilled : Text.replaceFirst expectedTypePlaceholder expected.signature constantTemplate =
      beforeExpectedType ++ expected.signature ++ afterExpectedType :=
    Text.replaceFirst_append (by decide)
      (fun h => underscore_not_mem_beforeExpectedType (h.subset hplaceholder)) _ _
  rw [constantUseCase, hfilled]

/-! ## 2. What the parts contribute -/

/-- The expression is a reference to a constant that has this value. -/
inductive StandsFor (model : SemanticModel) (document : String) : Expr → String → Prop
  | constant {reference : NameReference} {source : String} {range : Range} {symbol : Symbol}
      {value : String} : model.resolve document reference range = some symbol →
      symbol.kind = .constant → symbol.constantValue = some value →
      StandsFor model document (.mk (.nameRef reference) source range) value

/-- The expression is no reference to a constant that has a value. -/
def Dropped (model : SemanticModel) (document : String) (e : Expr) : Prop :=
  ∀ value, ¬ StandsFor model document e value

/-- What one part contributes. -/
inductive Contributes (model : SemanticModel) (document : String) : PromptPart → String → Prop
  | text (text : String) : Contributes model document (.text text) text
  | value {e : Expr} {value : String} : StandsFor model document e value →
      Contributes model document (.interpolation e) value
  | dropped {e : Expr} : Dropped model document e →
      Contributes model document (.interpolation e) ""

/-- What parts contribute one after the other. -/
inductive Renders (model : SemanticModel) (document : String) : List PromptPart → String → Prop
  | nil : Renders model document [] ""
  | cons {part : PromptPart} {parts : List PromptPart} {text more : String} :
      Contributes model document part text → Renders model document parts more →
      Renders model document (part :: parts) (text ++ more)

/-- The second list is the first one without some of its dropped interpolations. -/
inductive Thinned (model : SemanticModel) (document : String) :
    List PromptPart → List PromptPart → Prop
  | nil : Thinned model document [] []
  | keep (part : PromptPart) {parts thinned : List PromptPart} :
      Thinned model document parts thinned →
      Thinned model document (part :: parts) (part :: thinned)
  | drop {e : Expr} {parts thinned : List PromptPart} : Dropped model document e →
      Thinned model document parts thinned →
      Thinned model document (.interpolation e :: parts) thinned

theorem partText_of_standsFor {e : Expr} {value : String} (h : StandsFor model document e value) :
    partText model document (.interpolation e) = value := by
  obtain ⟨hresolve, hkind, hvalue⟩ := h
  simp [partText, hresolve, Symbol.isConstant, hkind, hvalue]

theorem partText_of_dropped {e : Expr} (h : Dropped model document e) :
    partText model document (.interpolation e) = "" := by
  obtain ⟨kind, source, range⟩ := e
  cases kind with
  | nameRef reference =>
    cases hresolve : model.resolve document reference range with
    | none => simp [partText, hresolve]
    | some symbol =>
      by_cases hkind : symbol.kind = .constant
      · cases hvalue : symbol.constantValue with
        | none => simp [partText, hresolve, hvalue]
        | some value => exact absurd (.constant hresolve hkind hvalue) (h value)
      · simp [partText, hresolve, Symbol.isConstant, hkind]
  | _ => rfl

theorem contributes_iff {part : PromptPart} {text : String} :
    Contributes model document part text ↔ partText model document part = text := by
  constructor
  · intro h
    cases h with
    | text => rfl
    | value hvalue => exact partText_of_standsFor hvalue
    | dropped hdropped => exact partText_of_dropped hdropped
  · rintro rfl
    cases part with
    | text text => exact .text text
    | interpolation e =>
      by_cases hvalue : ∃ value, StandsFor model document e value
      · obtain ⟨value, hvalue⟩ := hvalue
        rw [partText_of_standsFor hvalue]
        exact .value hvalue
      · have hdropped : Dropped model document e := not_exists.mp hvalue
        rw [partText_of_dropped hdropped]
        exact .dropped hdropped

theorem renders_iff {parts : List PromptPart} {text : String} :
    Renders model document parts text ↔
      String.join (parts.map (partText model document)) = text := by
  constructor
  · intro h
    induction h with
    | nil => rfl
    | cons hpart _ ih => rw [List.map_cons, String.join_cons, contributes_iff.mp hpart, ih]
  · rintro rfl
    induction parts with
    | nil => exact .nil
    | cons part parts ih =>
      rw [List.map_cons, String.join_cons]
      exact .cons (contributes_iff.mpr rfl) ih

theorem join_partText_of_thinned {parts thinned : List PromptPart}
    (h : Thinned model document parts thinned) :
    String.join (parts.map (partText model document)) =
      String.join (thinned.map (partText model document)) := by
  induction h with
  | nil => rfl
  | keep part _ ih => rw [List.map_cons, List.map_cons, String.join_cons, String.join_cons, ih]
  | drop hdropped _ ih =>
    rw [List.map_cons, String.join_cons, partText_of_dropped hdropped, String.empty_append, ih]

/-! ## 3. The prompts -/

/-- The use case of a constant expression is a fixed opening, the expected type as it was given, a
fixed text and what the parts of the natural expression contribute, which is one text; parts that
come later only add what they contribute, and interpolations that contribute nothing can be left
out or put in. The instructions are the library reference as it was given between two fixed texts,
so they tell what it was. -/
theorem put_in_verbatim :
    (∀ (expected : TypeDescriptor) (model : SemanticModel) (document : String),
      (∀ parts, ∃! text, Renders model document parts text) ∧
      (∀ parts text, Renders model document parts text →
        constantUseCase expected parts model document =
          beforeExpectedType ++ expected.signature ++ afterExpectedType ++ text) ∧
      (∀ parts more text, Renders model document more text →
        constantUseCase expected (parts ++ more) model document =
          constantUseCase expected parts model document ++ text) ∧
      ∀ parts thinned, Thinned model document parts thinned →
        constantUseCase expected parts model document =
          constantUseCase expected thinned model document) ∧
    (∀ libraries,
      systemInstructions ⟨libraries⟩ = beforeLibraries ++ libraries ++ afterLibraries) ∧
    Function.Injective fun libraries => systemInstructions ⟨libraries⟩ := by
  refine ⟨fun expected model document => ⟨?_, ?_, ?_, ?_⟩, systemInstructions_eq, ?_⟩
  · intro parts
    exact ⟨_, renders_iff.mpr rfl, fun _ h => (renders_iff.mp h).symm⟩
  · intro parts text h
    rw [constantUseCase_eq, renders_iff.mp h]
  · intro parts more text h
    rw [constantUseCase_eq, constantUseCase_eq, List.map_append, String.join_append,
      renders_iff.mp h, ← String.append_assoc]
  · intro parts thinned h
    rw [constantUseCase_eq, constantUseCase_eq, join_partText_of_thinned h]
  · intro libraries libraries' h
    have htexts : systemInstructions ⟨libraries⟩ = systemInstructions ⟨libraries'⟩ := h
    rw [systemInstructions_eq, systemInstructions_eq, String.append_left_inj] at htexts
    exact (String.append_right_inj beforeLibraries).mp htexts

/-- A model that knows one constant, of which the value looks like a placeholder. -/
def placeholderConstant : SemanticModel where
  resolve _ reference _ :=
    if reference.name = "MAX" then some ⟨"MAX", .constant, [], some expectedTypePlaceholder⟩
    else none
  moduleSymbols := []
  expectedType _ := none
  typeOf _ := none

/-- A placeholder that is put in as the type, as a text and as a value stays what it is, and a
reference to nothing leaves no trace. -/
theorem put_in_verbatim_of_placeholders :
    let ref (name : String) : Expr := .mk (.nameRef ⟨none, name⟩) name default
    let kept : List PromptPart := [.text expectedTypePlaceholder, .interpolation (ref "MAX")]
    let more : List PromptPart := .interpolation (ref "LOW") :: kept
    let text := expectedTypePlaceholder ++ (expectedTypePlaceholder ++ "")
    let useCase (parts : List PromptPart) :=
      constantUseCase ⟨expectedTypePlaceholder⟩ parts placeholderConstant "main.bal"
    Renders placeholderConstant "main.bal" kept text ∧
    Thinned placeholderConstant "main.bal" more kept ∧
    useCase kept = beforeExpectedType ++ expectedTypePlaceholder ++ afterExpectedType ++ text ∧
    useCase (more ++ kept) = useCase more ++ text ∧
    useCase more = useCase kept := by
  intro ref kept more text useCase
  have hrenders : Renders placeholderConstant "main.bal" kept text :=
    .cons (.text _) (.cons (.value (.constant rfl rfl rfl)) .nil)
  have hdropped : Dropped placeholderConstant "main.bal" (ref "LOW") := by
    rintro value ⟨hresolve, -, -⟩
    exact nomatch hresolve
  have hthinned : Thinned placeholderConstant "main.bal" more kept :=
    .drop hdropped (.keep _ (.keep _ .nil))
  obtain ⟨-, hwhole, hmore, hthin⟩ :=
    put_in_verbatim.1 ⟨expectedTypePlaceholder⟩ placeholderConstant "main.bal"
  exact ⟨hrenders, hthinned, hwhole kept text hrenders, hmore more kept text hrenders,
    hthin _ _ hthinned⟩

end GuidedSynthesis.Prompt
