import GuidedSynthesis.Json.Document
import GuidedSynthesis.Json.Printer
/-!
Records in JSON text.

A record is written as an object or, by position, as an array. In an object unknown fields are
ignored and a known field may stand only once. An array may leave out the last fields, which then
counts as `cut` and not as `missing`: a field that may be missing from an object is still required
in an array, unless it has a default.
-/

namespace GuidedSynthesis.Json

/-- Reads a value where at most the given number of containers may still be opened. -/
abbrev Decoder (α : Type) := Nat → Document → Option α

/-- What a record's text says about one field. -/
inductive Slot where
  | given (depth : Nat) (value : Document)
  | missing
  | cut

/-- The keys of an object's fields. -/
def keys? : List (List Piece × Document) → Option (List (String × Document))
  | [] => some []
  | (key, value) :: more => do
    let key ← stringOf? key
    let fields ← keys? more
    some ((key, value) :: fields)

/-- The slots of an array, one per name; more items than names are a fault. -/
def positionalSlots (depth : Nat) : List String → List Document → Option (List Slot)
  | [], [] => some []
  | [], _ :: _ => none
  | _ :: names, [] => (positionalSlots depth names []).map (.cut :: ·)
  | _ :: names, value :: values =>
    (positionalSlots depth names values).map (.given depth value :: ·)

/-- The slot of one name; a name that is given twice is a fault. -/
def namedSlot (depth : Nat) (fields : List (String × Document)) (name : String) : Option Slot :=
  match fields.filter (·.1 = name) with
  | [] => some .missing
  | [(_, value)] => some (.given depth value)
  | _ => none

/-- The slots of a record with the given field names, in their order. -/
def Document.slots? (names : List String) : Decoder (List Slot) := fun depth document =>
  match depth, document with
  | 0, _ => none
  | depth + 1, .array items => positionalSlots depth names items
  | depth + 1, .object fields => do
    let fields ← keys? fields
    names.mapM (namedSlot depth fields)
  | _, _ => none

namespace Slot

/-- A field that has to be there. -/
def required (decode : Decoder α) : Slot → Option α
  | given depth value => decode depth value
  | missing => none
  | cut => none

/-- A field that may be missing or null. -/
def optional (decode : Decoder α) : Slot → Option (Option α)
  | given _ .null => some none
  | given depth value => (decode depth value).map some
  | missing => some none
  | cut => none

/-- A field with a value that stands for it when it is left out. -/
def orDefault (default : α) (decode : Decoder α) : Slot → Option α
  | given depth value => decode depth value
  | missing => some default
  | cut => some default

end Slot

namespace Decoder

/-- Any value. -/
def any : Decoder Json := fun depth document => document.value? depth

def text : Decoder String := fun _ document =>
  match document with
  | .string pieces => stringOf? pieces
  | _ => none

/-- The value, or none for null. -/
def nullable (decode : Decoder α) : Decoder (Option α) := fun depth document =>
  match document with
  | .null => some none
  | _ => (decode depth document).map some

/-- A whole number below a bound, written without fraction and exponent. -/
def below (bound : Nat) : Decoder Nat := fun _ document =>
  match document with
  | .numeral n =>
    match n.number? with
    | some (.whole (.ofNat value)) => if value < bound then some value else none
    | _ => none
  | _ => none

def word32 : Decoder UInt32 := fun depth document =>
  (below (Nat.pow 2 32) depth document).map UInt32.ofNat

/-- Any number, in the 32-bit format. A numeral with fraction or exponent is rounded to the 64-bit
format first. -/
def single : Decoder Decimal.Binary := fun _ document =>
  match document with
  | .numeral n =>
    match n.number? with
    | some (.whole value) => some (Decimal.single.ofInt value)
    | some (.double x) => some (x.convert Decimal.single)
    | _ => none
  | _ => none

/-- An array. -/
def list (decode : Decoder α) : Decoder (List α) := fun depth document =>
  match depth, document with
  | depth + 1, .array items => items.mapM (decode depth)
  | _, _ => none

/-- One of the named constants: its name, or an object that gives the name with null. -/
def constant (constants : List (String × α)) : Decoder α := fun depth document =>
  match document with
  | .string pieces => do constants.lookup (← stringOf? pieces)
  | .object [(key, .null)] => if depth = 0 then none else do constants.lookup (← stringOf? key)
  | _ => none

end Decoder

/-- Reads a text. -/
def decode? (decode : Decoder α) (text : String) : Option α := do
  let document ← Document.ofChars? text.toList
  decode maxDepth document

/-- A type whose values are written to JSON and read back. -/
class Codec (α : Type) where
  toJson : α → Json
  decode : Decoder α

/-- The compact text of a value. -/
def textOf [Codec α] (a : α) : String := (Codec.toJson a).render

/-- The value that a text describes. -/
def ofText? [Codec α] (text : String) : Option α := decode? Codec.decode text

end GuidedSynthesis.Json
