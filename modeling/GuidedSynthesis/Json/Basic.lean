import GuidedSynthesis.Decimal.Binary
/-!
JSON values.

An object keeps its fields in the order in which they are to be written. Free-form values, those of
which this library does not know the fields, are kept with their keys in ascending order and without
repetition: `Json.insertField` keeps both.
-/

namespace GuidedSynthesis

/-- A JSON number: a whole number, or a number of the 64-bit or the 32-bit binary format. -/
inductive Json.Number where
  | whole (n : Int)
  | double (x : Decimal.Binary)
  | single (x : Decimal.Binary)
  deriving DecidableEq, Repr

/-- A JSON value. -/
inductive Json where
  | null
  | bool (b : Bool)
  | number (n : Json.Number)
  | string (s : String)
  | array (items : List Json)
  | object (fields : List (String × Json))
  deriving Repr, Inhabited

namespace Json

/-- A whole number as a value. -/
def ofNat (n : Nat) : Json := .number (.whole n)

/-- The value, or `null` when there is none. -/
def ofOption (f : α → Json) : Option α → Json
  | none => .null
  | some a => f a

/-- Adds a field to fields in ascending order of keys; a key that is already there takes the new
value. -/
def insertField (key : String) (value : Json) : List (String × Json) → List (String × Json)
  | [] => [(key, value)]
  | (k, v) :: rest =>
    if key = k then (key, value) :: rest
    else if key < k then (key, value) :: (k, v) :: rest
    else (k, v) :: insertField key value rest

/-- The fields in ascending order of keys, the last of those with one key. -/
def sortFields (fields : List (String × Json)) : List (String × Json) :=
  fields.foldl (fun sorted field => insertField field.1 field.2 sorted) []

/-- The value of a field of an object. -/
def get? (key : String) : Json → Option Json
  | .object fields => fields.lookup key
  | _ => none

def isArray : Json → Bool
  | .array _ => true
  | _ => false

def string? : Json → Option String
  | .string s => some s
  | _ => none

end Json

end GuidedSynthesis
