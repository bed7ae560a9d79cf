import GuidedSynthesis.Json.Basic
import GuidedSynthesis.Decimal.Notation
import GuidedSynthesis.Text.Hexadecimal
/-!
JSON text, compact and indented.

In a string only the quotation mark, the reverse solidus and the control characters below U+0020 are
escaped. Numbers of a binary format are written by their shortest digits; those that are infinite or
NaN are written `null`.
-/

namespace GuidedSynthesis.Json

/-- 64-bit numbers are positional from 0.00001 up to, not including, 10^16. -/
def doubleStyle : Decimal.Style := ⟨some (-5), some 15, .toEven⟩

/-- 32-bit numbers are positional from 0.000001 up to, not including, 10^13. -/
def singleStyle : Decimal.Style := ⟨some (-6), some 12, .toEven⟩

/-- A character inside a string. -/
def escapeChar (c : Char) : List Char :=
  if c = '"' then ['\\', '"']
  else if c = '\\' then ['\\', '\\']
  else if 0x20 ≤ c.toNat then [c]
  else if c.toNat = 0x08 then ['\\', 'b']
  else if c.toNat = 0x09 then ['\\', 't']
  else if c.toNat = 0x0a then ['\\', 'n']
  else if c.toNat = 0x0c then ['\\', 'f']
  else if c.toNat = 0x0d then ['\\', 'r']
  else ['\\', 'u', '0', '0', Text.hexDigit (c.toNat / 16), Text.hexDigit (c.toNat % 16)]

/-- A string with its quotation marks. -/
def quote (s : String) : List Char := '"' :: (s.toList.flatMap escapeChar ++ ['"'])

/-- A number of a binary format. -/
def binaryText (format : Decimal.Format) (style : Decimal.Style) : Decimal.Binary → List Char
  | .finite negative significand exponent => format.text style negative significand exponent
  | _ => "null".toList

def Number.text : Number → List Char
  | .whole n => Decimal.intText n
  | .double x => binaryText Decimal.double doubleStyle x
  | .single x => binaryText Decimal.single singleStyle x

mutual
/-- The compact text of a value. -/
def compact : Json → List Char
  | .null => "null".toList
  | .bool true => "true".toList
  | .bool false => "false".toList
  | .number n => n.text
  | .string s => quote s
  | .array [] => "[]".toList
  | .array (item :: more) => '[' :: (compact item ++ compactItems more)
  | .object [] => "\x7b\x7d".toList
  | .object ((key, value) :: more) =>
    '{' :: (quote key ++ ':' :: (compact value ++ compactFields more))

/-- The items after the first, and the end of the array. -/
def compactItems : List Json → List Char
  | [] => [']']
  | item :: more => ',' :: (compact item ++ compactItems more)

/-- The fields after the first, and the end of the object. -/
def compactFields : List (String × Json) → List Char
  | [] => ['}']
  | (key, value) :: more => ',' :: (quote key ++ ':' :: (compact value ++ compactFields more))
end

/-- A line break and the indentation of the given depth, two spaces a level. -/
def breakLine (depth : Nat) : List Char := '\n' :: List.replicate (2 * depth) ' '

mutual
/-- The indented text of a value at a depth. -/
def indented (depth : Nat) : Json → List Char
  | .array [] => "[]".toList
  | .array (item :: more) =>
    '[' :: (breakLine (depth + 1) ++ indented (depth + 1) item ++ indentedItems depth more)
  | .object [] => "\x7b\x7d".toList
  | .object ((key, value) :: more) =>
    '{' :: (breakLine (depth + 1) ++ quote key ++ ':' :: ' ' :: (indented (depth + 1) value ++
      indentedFields depth more))
  | .null => "null".toList
  | .bool true => "true".toList
  | .bool false => "false".toList
  | .number n => n.text
  | .string s => quote s

def indentedItems (depth : Nat) : List Json → List Char
  | [] => breakLine depth ++ [']']
  | item :: more =>
    ',' :: (breakLine (depth + 1) ++ indented (depth + 1) item ++ indentedItems depth more)

def indentedFields (depth : Nat) : List (String × Json) → List Char
  | [] => breakLine depth ++ ['}']
  | (key, value) :: more =>
    ',' :: (breakLine (depth + 1) ++ quote key ++ ':' :: ' ' :: (indented (depth + 1) value ++
      indentedFields depth more))
end

/-- The compact text of a value as a string. -/
def render (j : Json) : String := String.ofList j.compact

/-- The text of a value indented by two spaces a level. -/
def renderPretty (j : Json) : String := String.ofList (j.indented 0)

end GuidedSynthesis.Json
