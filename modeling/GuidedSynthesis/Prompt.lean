import GuidedSynthesis.Library
import GuidedSynthesis.Prompt.Wording
import GuidedSynthesis.Request
import GuidedSynthesis.Semantics
import GuidedSynthesis.Text.Search
/-!
The prompts for generation and repair.

All instructions are fixed; names, sources, diagnostics, the library reference and the user's own
words are put in between them as they are. The library reference and the type of a constant
expression take the place of a placeholder, the first of its kind in the template; nothing is looked
for in what has been put in.
-/

namespace GuidedSynthesis

/-- What the prompts of a model service have in common: the library reference. -/
structure Prompts where
  libraries : String
  deriving DecidableEq, Repr

namespace Prompts

/-- Prompts with the bundled reference. -/
def bundled : Prompts := ⟨Library.reference⟩

/-- Prompts whose reference holds the named libraries of a catalog. -/
def ofCatalog (catalog : Catalog) (names : List String) (threshold : Nat) : Result Prompts :=
  (LibraryContext.gather catalog names threshold).map fun context => ⟨context.toJson.renderPretty⟩

end Prompts

namespace Prompt

/-- The instructions with the library reference in them. -/
def systemInstructions (p : Prompts) : String :=
  Text.replaceFirst librariesPlaceholder p.libraries instructionsTemplate

/-- A file under its path. -/
def fileText (file : SourceFile) : String := "**" ++ file.path ++ "**\n" ++ file.content ++ "\n"

/-- The use case and the user's existing code. -/
def query (useCase : String) (files : SourceSet) : String :=
  "QUERY: The query you need to answer using the provided api documentation.\n<query>\n" ++
    useCase ++
    "\n</query>\n\nExisting Code: Users existing code.\n<existing_code>\n" ++
    String.join (files.files.map fileText) ++
    "\n</existing_code>\n"

/-- The use case of replacing an annotated external function. -/
def functionUseCase (annotated generated prompt : String) : String :=
  "An `external` function with the `@natural:code` Ballerina annotation needs to be replaced at\n" ++
    "compile-time with the code necessary to achieve the requirement specified as the `prompt`\n" ++
    "field in the annotation.\n\n" ++
    "As a skilled Ballerina programmer, you have to generate the code to do this for the " ++
    annotated ++ " function.\nThe following prompt defines the requirement:\n\n```\n" ++ prompt ++
    "\n```\n\nYour task is to generate a function named '" ++ generated ++
    "' with the code that is needed to satisfy this user\nprompt.\n\nThe '" ++ generated ++
    "' function should have exactly the same signature as the '" ++ annotated ++ "' function.\n" ++
    "Use only the parameters passed to the function and module-level clients that are clients " ++
    "from the ballerina and ballerinax module in the generated code.\n" ++
    "Do not use any configurable variables or module-level variables defined in the program.\n\n" ++
    "Respond with ONLY THE GENERATED FUNCTION AND ANY IMPORTS REQUIRED BY THE GENERATED FUNCTION.\n"

/-- What a part of a natural expression contributes to its use case. A reference to a constant
contributes the constant's value; any other interpolation contributes nothing. -/
def partText (model : SemanticModel) (document : String) : PromptPart → String
  | .text text => text
  | .interpolation (.mk (.nameRef reference) _ range) =>
    match model.resolve document reference range with
    | some symbol => if symbol.isConstant then symbol.constantValue.getD "" else ""
    | none => ""
  | .interpolation _ => ""

/-- The use case of replacing a natural expression by a constant one. -/
def constantUseCase (expected : TypeDescriptor) (parts : List PromptPart) (model : SemanticModel)
    (document : String) : String :=
  Text.replaceFirst expectedTypePlaceholder expected.signature constantTemplate ++
    String.join (parts.map (partText model document))

/-- The instruction to repair a generated function. -/
def functionRepair (generated : String) (diagnostics : List Diagnostic) : String :=
  "Fix following issues in the generated '" ++ generated ++
    "' function.\nDo not change anything other than the function body.\nErrors: " ++
    Diagnostic.listing diagnostics ++ "\n"

/-- The task of repairing a generated expression. -/
def expressionRepairTask : String :=
  "The generated expression results in the following errors. " ++
    "Fix the errors and return a new constant expression."

/-- The instruction to repair a generated expression. -/
def expressionRepair (diagnostics : List Diagnostic) : String :=
  expressionRepairTask ++ "\nErrors: " ++ Diagnostic.listing diagnostics

end Prompt

end GuidedSynthesis
