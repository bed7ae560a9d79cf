import GuidedSynthesis.Json.Numeral
import GuidedSynthesis.Text.Hexadecimal
/-!
Reading JSON text, strictly as RFC 8259 has it: blanks are space, tab, line feed and carriage
return, and nothing but blanks may follow the value.

A text is first read into a `Document`, which keeps numerals as written, strings as pieces and
repeated fields as they come. What a document means is decided where it is used: `Document.value?`
makes it a free-form value, a record (`Json.Record`) takes the fields it knows and ignores the
others, so that an ignored field may be nested to any depth and may hold a numeral out of range or
half of a surrogate pair.
-/

namespace GuidedSynthesis.Json

/-- A piece of a string: a character as it stands, or a code unit of sixteen bits given by number. -/
inductive Piece where
  | plain (c : Char)
  | unit (n : Nat)
  deriving DecidableEq, Repr

/-- JSON text before its numerals and strings are decided. -/
inductive Document where
  | null
  | bool (b : Bool)
  | numeral (n : Numeral)
  | string (pieces : List Piece)
  | array (items : List Document)
  | object (fields : List (List Piece × Document))
  deriving Repr

/-! ## Characters -/

def isBlankChar (c : Char) : Bool := c = ' ' || c = '\t' || c = '\n' || c = '\r'

def skipBlanks (s : List Char) : List Char := s.dropWhile isBlankChar

/-- The character that stands after a reverse solidus for another one. -/
def unescape? (c : Char) : Option Char :=
  if c = '"' then some '"'
  else if c = '\\' then some '\\'
  else if c = '/' then some '/'
  else if c = 'b' then some (Char.ofNat 0x08)
  else if c = 'f' then some (Char.ofNat 0x0c)
  else if c = 'n' then some '\n'
  else if c = 'r' then some '\r'
  else if c = 't' then some '\t'
  else none

/-! ## Strings -/

/-- The pieces of a string of which the opening quotation mark has been read, and the text after the
closing one. -/
def readPieces : List Char → Option (List Piece × List Char)
  | [] => none
  | '"' :: rest => some ([], rest)
  | '\\' :: 'u' :: a :: b :: c :: d :: rest => do
    let n ← Text.hexNumber? [a, b, c, d]
    let (pieces, after) ← readPieces rest
    some (.unit n :: pieces, after)
  | '\\' :: c :: rest => do
    let plain ← unescape? c
    let (pieces, after) ← readPieces rest
    some (.plain plain :: pieces, after)
  | c :: rest =>
    if c.toNat < 0x20 || c = '\\' then none
    else do
      let (pieces, after) ← readPieces rest
      some (.plain c :: pieces, after)

/-- The characters of a string; half of a surrogate pair is none. -/
def joinPieces? : List Piece → Option (List Char)
  | [] => some []
  | .plain c :: rest => (joinPieces? rest).map (c :: ·)
  | .unit high :: .unit low :: rest =>
    if 0xd800 ≤ high ∧ high < 0xdc00 then
      if 0xdc00 ≤ low ∧ low < 0xe000 then
        (joinPieces? rest).map
          (Char.ofNat (0x10000 + (high - 0xd800) * 0x400 + (low - 0xdc00)) :: ·)
      else none
    else if 0xdc00 ≤ high ∧ high < 0xe000 then none
    else (joinPieces? (.unit low :: rest)).map (Char.ofNat high :: ·)
  | .unit n :: rest =>
    if 0xd800 ≤ n ∧ n < 0xe000 then none else (joinPieces? rest).map (Char.ofNat n :: ·)

/-- The string made of pieces. -/
def stringOf? (pieces : List Piece) : Option String := (joinPieces? pieces).map String.ofList

/-! ## Numerals -/

/-- The exponent of a numeral, if the text goes on with one; an `e` without digits is a fault. -/
def readExponent : List Char → Option (Option (Bool × List Char) × List Char)
  | c :: rest =>
    if c = 'e' || c = 'E' then
      let (negative, digits) := match rest with
        | '+' :: more => (false, more)
        | '-' :: more => (true, more)
        | _ => (false, rest)
      let taken := digits.takeWhile Char.isDigit
      if taken.isEmpty then none else some (some (negative, taken), digits.dropWhile Char.isDigit)
    else some (none, c :: rest)
  | [] => some (none, [])

/-- The digits after the point, if the text goes on with one; a point without digits is a fault. -/
def readFraction : List Char → Option (List Char × List Char)
  | '.' :: rest =>
    let taken := rest.takeWhile Char.isDigit
    if taken.isEmpty then none else some (taken, rest.dropWhile Char.isDigit)
  | rest => some ([], rest)

/-- A numeral at the start of a text. No digit may follow a leading zero. -/
def readNumeral (s : List Char) : Option (Numeral × List Char) := do
  let (negative, s) := match s with
    | '-' :: rest => (true, rest)
    | _ => (false, s)
  let whole := s.takeWhile Char.isDigit
  if whole.isEmpty || (whole.head? = some '0' && 1 < whole.length) then none
  else
    let (fraction, s) ← readFraction (s.dropWhile Char.isDigit)
    let (exponent, s) ← readExponent s
    some (⟨negative, whole, fraction, exponent⟩, s)

/-! ## Values -/

mutual
/-- A value at the start of a text that does not start blank. The fuel bounds the number of values
and is never short when it exceeds the length of the text. -/
def readValue : Nat → List Char → Option (Document × List Char)
  | 0, _ => none
  | fuel + 1, s =>
    match s with
    | 'n' :: 'u' :: 'l' :: 'l' :: rest => some (.null, rest)
    | 't' :: 'r' :: 'u' :: 'e' :: rest => some (.bool true, rest)
    | 'f' :: 'a' :: 'l' :: 's' :: 'e' :: rest => some (.bool false, rest)
    | '"' :: rest => do
      let (pieces, after) ← readPieces rest
      some (.string pieces, after)
    | '[' :: rest =>
      match skipBlanks rest with
      | ']' :: after => some (.array [], after)
      | rest => do
        let (items, after) ← readItems fuel rest
        some (.array items, after)
    | '{' :: rest =>
      match skipBlanks rest with
      | '}' :: after => some (.object [], after)
      | rest => do
        let (fields, after) ← readFields fuel rest
        some (.object fields, after)
    | s => do
      let (n, after) ← readNumeral s
      some (.numeral n, after)

/-- The items of an array from the next one on, and the text after its end. -/
def readItems : Nat → List Char → Option (List Document × List Char)
  | 0, _ => none
  | fuel + 1, s => do
    let (item, after) ← readValue fuel s
    match skipBlanks after with
    | ',' :: rest =>
      let (items, after) ← readItems fuel (skipBlanks rest)
      some (item :: items, after)
    | ']' :: rest => some ([item], rest)
    | _ => none

/-- The fields of an object from the next one on, and the text after its end. -/
def readFields : Nat → List Char → Option (List (List Piece × Document) × List Char)
  | 0, _ => none
  | fuel + 1, s =>
    match s with
    | '"' :: rest => do
      let (key, after) ← readPieces rest
      match skipBlanks after with
      | ':' :: rest =>
        let (value, after) ← readValue fuel (skipBlanks rest)
        match skipBlanks after with
        | ',' :: rest =>
          let (fields, after) ← readFields fuel (skipBlanks rest)
          some ((key, value) :: fields, after)
        | '}' :: rest => some ([(key, value)], rest)
        | _ => none
      | _ => none
    | _ => none
end

/-- The document of a whole text. -/
def Document.ofChars? (s : List Char) : Option Document :=
  match readValue (2 * s.length + 2) (skipBlanks s) with
  | some (document, rest) => if (skipBlanks rest).isEmpty then some document else none
  | none => none

/-! ## Free-form values -/

mutual
/-- The value of a document in which at most `depth` containers are open at once. -/
def Document.value? (depth : Nat) : Document → Option Json
  | .null => some .null
  | .bool b => some (.bool b)
  | .numeral n => n.number?.map .number
  | .string pieces => (stringOf? pieces).map .string
  | .array items =>
    match depth with
    | 0 => none
    | depth + 1 => (Document.values? depth items).map .array
  | .object fields =>
    match depth with
    | 0 => none
    | depth + 1 => (Document.fields? depth fields).map fun fields => .object (sortFields fields)

def Document.values? (depth : Nat) : List Document → Option (List Json)
  | [] => some []
  | item :: more => do
    let value ← item.value? depth
    let values ← Document.values? depth more
    some (value :: values)

def Document.fields? (depth : Nat) : List (List Piece × Document) → Option (List (String × Json))
  | [] => some []
  | (key, item) :: more => do
    let key ← stringOf? key
    let value ← item.value? depth
    let fields ← Document.fields? depth more
    some ((key, value) :: fields)
end

/-- How many containers may be open at once. -/
def maxDepth : Nat := 127

/-- The free-form value of a text. -/
def parse? (text : List Char) : Option Json := do
  let document ← Document.ofChars? text
  document.value? maxDepth

end GuidedSynthesis.Json
