import GuidedSynthesis.Decimal.Binary
/-!
TOML values.
-/

namespace GuidedSynthesis

/-- A TOML value. Nothing here depends on which date or time is given, so none is kept. -/
inductive Toml where
  | string (s : String)
  | integer (n : Int)
  | float (x : Decimal.Binary)
  | boolean (b : Bool)
  | dateTime
  | array (items : List Toml)
  | table (fields : List (String × Toml))
  deriving Repr

/-- Integers are words of 64 bits with sign. -/
def Toml.isInteger (n : Int) : Bool := -(Int.pow 2 63) ≤ n && n < Int.pow 2 63

end GuidedSynthesis
