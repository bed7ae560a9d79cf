import GuidedSynthesis.Distinct
import GuidedSynthesis.Failure
import GuidedSynthesis.Json.Printer
import GuidedSynthesis.Json.Record
import GuidedSynthesis.Library.Reference
/-!
The libraries that a prompt describes, and how their descriptions are gathered from a catalog.

A large library is fetched on its own, the small ones together. How the request is cut into fetches
is not to be seen in the result: the gathered context holds, in the order of the request, the first
description that any answer gives of each requested name.
-/

namespace GuidedSynthesis

/-- The description of a library; its functions are passed on as they came. -/
structure LibraryDescriptor where
  name : String
  description : String
  functions : List Json
  deriving Repr

namespace LibraryDescriptor

def toJson (d : LibraryDescriptor) : Json :=
  .object [("name", .string d.name), ("description", .string d.description),
    ("functions", .array d.functions)]

/-- Only the name has to be given. -/
def decode : Json.Decoder LibraryDescriptor := fun depth document => do
  let [name, description, functions] ←
    document.slots? ["name", "description", "functions"] depth | none
  some ⟨← name.required .text, ← description.orDefault "" .text,
    ← functions.orDefault [] (.list .any)⟩

instance : Json.Codec LibraryDescriptor := ⟨toJson, decode⟩

end LibraryDescriptor

/-- A source of descriptions: how many functions a library has, and the descriptions of some
libraries. An answer may leave out, repeat or add libraries. -/
structure Catalog where
  sizeHint : String → Nat
  fetch : List String → Result (List LibraryDescriptor)

/-! ## Catalogs in memory -/

/-- Descriptors of which the last one of a name counts. -/
structure StaticCatalog where
  descriptors : List LibraryDescriptor

namespace StaticCatalog

/-- The catalog in a JSON list of descriptors. -/
def ofJson (text : String) : Result StaticCatalog :=
  match Json.decode? (.list LibraryDescriptor.decode) text with
  | some descriptors => .ok ⟨descriptors⟩
  | none => .error (.json "the text is no list of library descriptors")

/-- The catalog of the bundled reference. -/
def bundled : Result StaticCatalog := ofJson Library.reference

def find? (c : StaticCatalog) (name : String) : Option LibraryDescriptor :=
  c.descriptors.reverse.find? (·.name = name)

/-- The names in ascending order. -/
def names (c : StaticCatalog) : List String :=
  (firstsBy id (c.descriptors.map LibraryDescriptor.name)).mergeSort fun a b => decide (a ≤ b)

def sizeHint (c : StaticCatalog) (name : String) : Nat :=
  match c.find? name with
  | some descriptor => descriptor.functions.length
  | none => 0

/-- The descriptors of the names, in their order; unknown names are left out. -/
def fetch (c : StaticCatalog) (names : List String) : List LibraryDescriptor :=
  names.filterMap c.find?

def toCatalog (c : StaticCatalog) : Catalog := ⟨c.sizeHint, fun names => .ok (c.fetch names)⟩

end StaticCatalog

/-! ## Gathering -/

/-- The distinct names of a request in order of their first occurrence. -/
def distinctNames (names : List String) : List String := firstsBy id names

/-- The fetches that serve a request: one for each library of at least `threshold` functions, then
one for all the others. -/
def batches (sizeHint : String → Nat) (threshold : Nat) (names : List String) :
    List (List String) :=
  let (large, small) := (distinctNames names).partition fun name => threshold ≤ sizeHint name
  large.map ([·]) ++ (if small.isEmpty then [] else [small])

/-- The libraries gathered so far, in order. -/
structure LibraryContext where
  libraries : List LibraryDescriptor
  deriving Repr

namespace LibraryContext

def empty : LibraryContext := ⟨[]⟩

def names (c : LibraryContext) : List String := c.libraries.map LibraryDescriptor.name

/-- The first description of each distinct name among those that the answers hold. -/
def ofAnswers (names : List String) (answers : List (List LibraryDescriptor)) : LibraryContext :=
  ⟨(distinctNames names).filterMap fun name => answers.flatten.find? (·.name = name)⟩

/-- Fetches the named libraries. The first fetch that fails ends the gathering. -/
def gather (catalog : Catalog) (names : List String) (threshold : Nat) : Result LibraryContext :=
  ((batches catalog.sizeHint threshold names).mapM catalog.fetch).map (ofAnswers names)

/-- The fetches that a gathering starts: all, or those up to the first that fails. -/
def started (fetch : List String → Result (List LibraryDescriptor)) :
    List (List String) → List (List String)
  | [] => []
  | batch :: more =>
    match fetch batch with
    | .ok _ => batch :: started fetch more
    | .error _ => [batch]

/-- Adds the libraries of another context whose names are new. -/
def merge (a b : LibraryContext) : LibraryContext :=
  ⟨a.libraries ++ firstsFrom LibraryDescriptor.name a.names b.libraries⟩

/-- The context as the prompts show it. -/
def toJson (c : LibraryContext) : Json := .array (c.libraries.map LibraryDescriptor.toJson)

end LibraryContext

end GuidedSynthesis
