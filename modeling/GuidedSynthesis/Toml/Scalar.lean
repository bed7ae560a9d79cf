import GuidedSynthesis.Json.Numeral
import GuidedSynthesis.Text.Hexadecimal
import GuidedSynthesis.Toml.Basic
/-!
Reading the TOML values that hold no other values: strings, numbers, dates and times.

Every reader takes what it can from the start of a text and returns the rest, or nothing where the
text breaks the rules of TOML 1.0.
-/

namespace GuidedSynthesis.Toml

def isSpace (c : Char) : Bool := c = ' ' || c = '\t'

def skipSpaces (s : List Char) : List Char := s.dropWhile isSpace

/-- The text after a line feed, with or without a carriage return before it. -/
def afterNewline? : List Char → Option (List Char)
  | '\n' :: rest => some rest
  | '\r' :: '\n' :: rest => some rest
  | _ => none

/-- A character that may stand in a string or comment as it is; quotation marks apart. -/
def isPlain (c : Char) : Bool := c = '\t' || (0x20 ≤ c.toNat && c.toNat ≠ 0x7f)

/-- The character at a code point, which must not be half of a surrogate pair. -/
def scalar? (n : Nat) : Option Char :=
  if n < 0xd800 ∨ (0xe000 ≤ n ∧ n < 0x110000) then some (Char.ofNat n) else none

/-! ## Strings -/

/-- The character that an escape stands for, the reverse solidus having been read. -/
def readEscape : List Char → Option (Char × List Char)
  | 'u' :: a :: b :: c :: d :: rest => do
    some (← scalar? (← Text.hexNumber? [a, b, c, d]), rest)
  | 'U' :: a :: b :: c :: d :: e :: f :: g :: h :: rest => do
    some (← scalar? (← Text.hexNumber? [a, b, c, d, e, f, g, h]), rest)
  | c :: rest =>
    if c = 'b' then some (Char.ofNat 0x08, rest)
    else if c = 't' then some ('\t', rest)
    else if c = 'n' then some ('\n', rest)
    else if c = 'f' then some (Char.ofNat 0x0c, rest)
    else if c = 'r' then some ('\r', rest)
    else if c = '"' then some ('"', rest)
    else if c = '\\' then some ('\\', rest)
    else none
  | [] => none

/-- Puts a character before what has been read. -/
def andThen (c : Char) : Option (List Char × List Char) → Option (List Char × List Char)
  | some (cs, rest) => some (c :: cs, rest)
  | none => none

/-- A string in quotation marks on one line, the opening mark having been read. The fuel is the
length of the text. -/
def readBasic : Nat → List Char → Option (List Char × List Char)
  | 0, _ => none
  | _, [] => none
  | _, '"' :: rest => some ([], rest)
  | fuel + 1, '\\' :: rest => do
    let (c, rest) ← readEscape rest
    andThen c (readBasic fuel rest)
  | fuel + 1, c :: rest => if isPlain c then andThen c (readBasic fuel rest) else none

/-- A string in apostrophes on one line, the opening one having been read. -/
def readLiteral : List Char → Option (List Char × List Char)
  | [] => none
  | c :: rest =>
    if c.toNat = 0x27 then some ([], rest)
    else if isPlain c then andThen c (readLiteral rest)
    else none

/-- How often a character is repeated at the start of a text. -/
def runLength (c : Char) (s : List Char) : Nat := (s.takeWhile (· = c)).length

/-- A delimiter of three marks closes a string; up to two marks before it belong to the string, and
shorter runs of marks do too. -/
def closes? (run : Nat) : Option Bool :=
  if run = 3 then some true else if run ≤ 5 then some false else none

/-- Drops blanks and line ends. -/
def skipBlankLines : List Char → List Char
  | ' ' :: rest => skipBlankLines rest
  | '\t' :: rest => skipBlankLines rest
  | '\n' :: rest => skipBlankLines rest
  | '\r' :: '\n' :: rest => skipBlankLines rest
  | s => s

/-- A string in triple quotation marks, the opening ones having been read. A reverse solidus at the
end of a line joins it with the next text. The fuel is the length of the text. -/
def readMultiBasic : Nat → List Char → Option (List Char × List Char)
  | 0, _ => none
  | _, [] => none
  | fuel + 1, '"' :: rest => do
    if ← closes? (runLength '"' ('"' :: rest)) then some ([], rest.drop 2)
    else andThen '"' (readMultiBasic fuel rest)
  | fuel + 1, '\\' :: rest =>
    match afterNewline? (skipSpaces rest) with
    | some after => readMultiBasic fuel (skipBlankLines after)
    | none => do
      let (c, rest) ← readEscape rest
      andThen c (readMultiBasic fuel rest)
  | fuel + 1, c :: rest =>
    match afterNewline? (c :: rest) with
    | some after => andThen '\n' (readMultiBasic fuel after)
    | none => if isPlain c then andThen c (readMultiBasic fuel rest) else none

/-- The apostrophe. -/
def apostrophe : Char := Char.ofNat 0x27

/-- A string in triple apostrophes, the opening ones having been read. The fuel is the length of the
text. -/
def readMultiLiteral : Nat → List Char → Option (List Char × List Char)
  | 0, _ => none
  | _, [] => none
  | fuel + 1, c :: rest =>
    if c = apostrophe then do
      if ← closes? (runLength c (c :: rest)) then some ([], rest.drop 2)
      else andThen c (readMultiLiteral fuel rest)
    else
      match afterNewline? (c :: rest) with
      | some after => andThen '\n' (readMultiLiteral fuel after)
      | none => if isPlain c then andThen c (readMultiLiteral fuel rest) else none

/-- A line end directly after the opening delimiter is no part of the string. -/
def skipFirstNewline (s : List Char) : List Char := (afterNewline? s).getD s

/-- A string of any form. -/
def readString (s : List Char) : Option (List Char × List Char) :=
  match s with
  | '"' :: '"' :: '"' :: rest => readMultiBasic (rest.length + 1) (skipFirstNewline rest)
  | '"' :: rest => readBasic (rest.length + 1) rest
  | a :: rest =>
    if a = apostrophe then
      match rest with
      | b :: c :: after =>
        if b = apostrophe && c = apostrophe then
          readMultiLiteral (after.length + 1) (skipFirstNewline after)
        else readLiteral rest
      | _ => readLiteral rest
    else none
  | [] => none

/-! ## Numbers -/

/-- Digits of a class, an underscore being allowed between two of them. The flag tells whether a
digit was the last character read. -/
def readDigits (isDigit : Char → Bool) (afterDigit : Bool) :
    List Char → Option (List Char × List Char)
  | [] => if afterDigit then some ([], []) else none
  | c :: rest =>
    if isDigit c then andThen c (readDigits isDigit true rest)
    else if c = '_' then if afterDigit then readDigits isDigit false rest else none
    else if afterDigit then some ([], c :: rest) else none

/-- Decimal digits of which the first is not zero unless it stands alone. -/
def readWhole : List Char → Option (List Char × List Char)
  | '0' :: rest => some (['0'], rest)
  | s => readDigits Char.isDigit false s

/-- The sign before a number. -/
def readSign : List Char → Bool × List Char
  | '-' :: rest => (true, rest)
  | '+' :: rest => (false, rest)
  | s => (false, s)

/-- The exponent of a number, if it has one. -/
def readExponent : List Char → Option (Option Int × List Char)
  | c :: rest =>
    if c = 'e' || c = 'E' then do
      let (negative, rest) := readSign rest
      let (digits, rest) ← readDigits Char.isDigit false rest
      let e : Int := Json.digitsValue digits
      some (some (if negative then -e else e), rest)
    else some (none, c :: rest)
  | [] => some (none, [])

/-- A number written with fraction or exponent is a float; it must not exceed the greatest one. -/
def floatOf? (negative : Bool) (whole fraction : List Char) (exponent : Int) : Option Toml :=
  let x := Decimal.double.ofDecimal negative (Json.digitsValue (whole ++ fraction))
    (exponent - fraction.length)
  if x = .infinity false then none else some (.float x)

/-- A whole number, which has to fit. -/
def integerOf? (n : Int) : Option Toml := if isInteger n then some (.integer n) else none

/-- The number that digits of some base stand for. -/
def valueIn (base : Nat) (digits : List Char) : Nat :=
  digits.foldl (fun n c => n * base + (Text.hexValue? c).getD 0) 0

/-- A whole number in base 16, 8 or 2. -/
def readBased (base : Nat) (s : List Char) : Option (Toml × List Char) := do
  let (digits, rest) ← readDigits (fun c => (Text.hexValue? c).any (decide <| · < base)) false s
  some (← integerOf? (valueIn base digits), rest)

/-- A number that is written in decimal, or infinite, or not a number. -/
def readDecimal (s : List Char) : Option (Toml × List Char) :=
  match readSign s with
  | (negative, 'i' :: 'n' :: 'f' :: rest) => some (.float (.infinity negative), rest)
  | (_, 'n' :: 'a' :: 'n' :: rest) => some (.float .nan, rest)
  | (negative, s) => do
    let (whole, s) ← readWhole s
    match s with
    | '.' :: rest =>
      let (fraction, rest) ← readDigits Char.isDigit false rest
      let (exponent, rest) ← readExponent rest
      some (← floatOf? negative whole fraction (exponent.getD 0), rest)
    | s =>
      let (exponent, rest) ← readExponent s
      match exponent with
      | some exponent => some (← floatOf? negative whole [] exponent, rest)
      | none =>
        let n : Int := Json.digitsValue whole
        some (← integerOf? (if negative then -n else n), rest)

/-! ## Dates and times -/

/-- A number of two digits between two bounds. -/
def readPair (least greatest : Nat) : List Char → Option (Nat × List Char)
  | a :: b :: rest =>
    if a.isDigit && b.isDigit then
      let n := Json.digitsValue [a, b]
      if least ≤ n ∧ n ≤ greatest then some (n, rest) else none
    else none
  | _ => none

/-- The text after a given character. -/
def after? (c : Char) : List Char → Option (List Char)
  | d :: rest => if c = d then some rest else none
  | [] => none

def isLeapYear (year : Nat) : Bool :=
  year % 4 = 0 && (year % 100 ≠ 0 || year % 400 = 0)

def daysIn (year month : Nat) : Nat :=
  if month = 2 then if isLeapYear year then 29 else 28
  else if month = 4 ∨ month = 6 ∨ month = 9 ∨ month = 11 then 30
  else 31

/-- A day of the calendar; the text after it. -/
def afterDate? (s : List Char) : Option (List Char) := do
  let (century, s) ← readPair 0 99 s
  let (year, s) ← readPair 0 99 s
  let (month, s) ← readPair 1 12 (← after? '-' s)
  let (_, s) ← readPair 1 (daysIn (century * 100 + year) month) (← after? '-' s)
  some s

/-- A time of day, a leap second included; the text after it. -/
def afterTime? (s : List Char) : Option (List Char) := do
  let (_, s) ← readPair 0 23 s
  let (_, s) ← readPair 0 59 (← after? ':' s)
  let (_, s) ← readPair 0 60 (← after? ':' s)
  match s with
  | '.' :: rest =>
    if (rest.takeWhile Char.isDigit).isEmpty then none else some (rest.dropWhile Char.isDigit)
  | s => some s

/-- The distance from universal time, if one is given; a sign without one is a fault. -/
def afterOffset? : List Char → Option (List Char)
  | c :: rest =>
    if c = 'Z' || c = 'z' then some rest
    else if c = '+' || c = '-' then do
      let (_, rest) ← readPair 0 23 rest
      let (_, rest) ← readPair 0 59 (← after? ':' rest)
      some rest
    else some (c :: rest)
  | [] => some []

/-- The time that may follow a date. -/
def afterDateTime? : List Char → Option (List Char)
  | c :: rest =>
    if c = 'T' || c = 't' || c = ' ' then
      match afterTime? rest with
      | some rest => afterOffset? rest
      | none => some (c :: rest)
    else some (c :: rest)
  | [] => some []

/-- A date, a time, or both. -/
def readMoment (s : List Char) : Option (Toml × List Char) :=
  match afterDate? s with
  | some rest => (afterDateTime? rest).map (.dateTime, ·)
  | none => (afterTime? s).map (.dateTime, ·)

/-- What starts with a digit or a sign. -/
def readNumber (s : List Char) : Option (Toml × List Char) :=
  match readMoment s with
  | some reading => some reading
  | none =>
    match s with
    | '0' :: 'x' :: rest => readBased 16 rest
    | '0' :: 'o' :: rest => readBased 8 rest
    | '0' :: 'b' :: rest => readBased 2 rest
    | s => readDecimal s

end GuidedSynthesis.Toml
