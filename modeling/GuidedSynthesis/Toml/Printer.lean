import GuidedSynthesis.Decimal.Notation
import GuidedSynthesis.Text.Hexadecimal
import GuidedSynthesis.Toml.Basic
/-!
Writing TOML: sections of fields.

A string takes the first form that can hold it: in quotation marks or apostrophes on one line, then
in triple quotation marks or triple apostrophes, and with escapes if nothing else is left.
-/

namespace GuidedSynthesis.Toml

/-! ## Strings -/

/-- A control character that cannot stand in a string as it is. -/
def isControl (c : Char) : Bool := (c.toNat < 0x20 && c ≠ '\t' && c ≠ '\n') || c.toNat = 0x7f

/-- The longest run of a character in a text, of which `run` have been seen at its start. -/
def longestRun (c : Char) (run : Nat) : List Char → Nat
  | [] => run
  | d :: rest => if d = c then longestRun c (run + 1) rest else max run (longestRun c 0 rest)

/-- An escaped character: the two-letter escapes where there are any. -/
def escape (c : Char) : List Char :=
  if c.toNat = 0x08 then ['\\', 'b']
  else if c = '\t' then ['\\', 't']
  else if c = '\n' then ['\\', 'n']
  else if c.toNat = 0x0c then ['\\', 'f']
  else if c = '\r' then ['\\', 'r']
  else if c = '"' then ['\\', '"']
  else if c = '\\' then ['\\', '\\']
  else ['\\', 'u', '0', '0', Text.upperHexDigit (c.toNat / 16), Text.upperHexDigit (c.toNat % 16)]

def isEscaped (c : Char) : Bool := isControl c || c = '\t' || c = '\\'

/-- The characters of a string on one line. -/
def basicBody (s : List Char) : List Char :=
  s.flatMap fun c => if isEscaped c || c = '\n' || c = '"' then escape c else [c]

/-- The characters of a string over several lines: of a run of quotation marks each third one is
escaped. `run` counts the marks since the last other character or escape. -/
def multiBasicBody (run : Nat) : List Char → List Char
  | [] => []
  | c :: rest =>
    if c = '"' then
      if run = 2 then escape c ++ multiBasicBody 0 rest else c :: multiBasicBody (run + 1) rest
    else if isEscaped c then escape c ++ multiBasicBody 0 rest
    else c :: multiBasicBody 0 rest

/-- The delimiters around a string; over several lines a line end follows the opening one. -/
def delimited (mark : Char) (isMulti startsNewLine : Bool) (body : List Char) : List Char :=
  let delimiter := if isMulti then [mark, mark, mark] else [mark]
  delimiter ++ ((if startsNewLine then ['\n'] else []) ++ (body ++ delimiter))

/-- A string in the first form that can hold it. -/
def stringText (s : List Char) : List Char :=
  let apostrophe := Char.ofNat 0x27
  let hasControl := s.any isControl
  let hasEscape := s.contains '\\'
  let hasNewline := s.contains '\n'
  let quotes := longestRun '"' 0 s
  let apostrophes := longestRun apostrophe 0 s
  if !hasControl && !hasEscape && quotes = 0 && !hasNewline then
    delimited '"' false false (basicBody s)
  else if !hasControl && apostrophes = 0 && !hasNewline then delimited apostrophe false false s
  else if !hasControl && !hasEscape && quotes ≤ 2 then
    delimited '"' true hasNewline (multiBasicBody 0 s)
  else if !hasControl && apostrophes ≤ 2 then delimited apostrophe true hasNewline s
  else if hasNewline then delimited '"' true true (multiBasicBody 0 s)
  else delimited '"' false false (basicBody s)

/-! ## Fields and sections -/

/-- Floats are always positional, and exact ties go away from zero. -/
def floatStyle : Decimal.Style := ⟨none, none, .away⟩

def floatText : Decimal.Binary → List Char
  | .finite negative significand exponent =>
    Decimal.double.text floatStyle negative significand exponent
  | .infinity negative => if negative then "-inf".toList else "inf".toList
  | .nan => "nan".toList

/-- The text of a string, a number or a truth value; no other value is written. -/
def scalarText? : Toml → Option (List Char)
  | .string s => some (stringText s.toList)
  | .integer n => if isInteger n then some (Decimal.intText n) else none
  | .float x => some (floatText x)
  | .boolean b => some (if b then "true".toList else "false".toList)
  | _ => none

/-- A field on its line. -/
def fieldLine? (field : String × Toml) : Option String :=
  (scalarText? field.2).map fun text => field.1 ++ " = " ++ String.ofList text ++ "\n"

/-- A section: its header and its fields. -/
def sectionText? (part : String × List (String × Toml)) : Option String :=
  (part.2.mapM fieldLine?).map fun lines => "[" ++ part.1 ++ "]\n" ++ String.join lines

/-- Sections with an empty line between them; none if a value cannot be written. -/
def render? (sections : List (String × List (String × Toml))) : Option String :=
  (sections.mapM sectionText?).map fun parts => "\n".intercalate parts

end GuidedSynthesis.Toml
