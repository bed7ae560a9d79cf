import GuidedSynthesis.Json.Basic
/-!
The number that a JSON numeral stands for.

A numeral without fraction and exponent is a whole number if it fits 64 bits with or without sign.
Any other numeral is read in 64-bit floating point: the leading digits that fit an unsigned 64-bit
word are converted, and the result is scaled by one rounded multiplication or division by a power of
ten (by several where the power exceeds 10^308). So a numeral of many digits may come out one unit
beside the nearest number. A numeral beyond the finite numbers has no value.
-/

namespace GuidedSynthesis.Json

open Decimal (Binary)

/-- A numeral as written: sign, digits before the point, digits after it, and the exponent's sign
and digits. -/
structure Numeral where
  negative : Bool
  whole : List Char
  fraction : List Char
  exponent : Option (Bool × List Char)
  deriving DecidableEq, Repr

/-- The value of a decimal digit. -/
def digitValue (c : Char) : Nat := c.toNat - 48

/-- Digits as a number. -/
def digitsValue (digits : List Char) : Nat :=
  digits.foldl (fun n c => n * 10 + digitValue c) 0

/-- The number of words of 64 bits. -/
def wordBound : Nat := Nat.pow 2 64

/-- Reads whole digits while they fit a word; returns the word and how many digits are left. -/
def leadingWord (word : Nat) : List Char → Nat × Nat
  | [] => (word, 0)
  | c :: more =>
    if word * 10 + digitValue c < wordBound then leadingWord (word * 10 + digitValue c) more
    else (word, more.length + 1)

/-- Appends digits of the fraction while they fit a word; returns how many were taken. -/
def extendWord (word : Nat) (taken : Nat) : List Char → Nat × Nat
  | [] => (word, taken)
  | c :: more =>
    if word * 10 + digitValue c < wordBound then
      extendWord (word * 10 + digitValue c) (taken + 1) more
    else (word, taken)

/-- The power of ten in the 64-bit format. -/
def powerOfTen (n : Nat) : Binary := Decimal.double.ofDecimal false 1 n

/-- `x * 10 ^ exponent`, in rounded steps of at most `10 ^ 308`; none if it is not finite. `fuel`
bounds the steps of division: after two of them every word is below the least number. -/
def scale (x : Binary) (exponent : Int) : Nat → Option Binary
  | 0 => some x
  | fuel + 1 =>
    if exponent.natAbs ≤ 308 then
      if 0 ≤ exponent then
        let product := x.mul Decimal.double (powerOfTen exponent.natAbs)
        if product.isFinite then some product else none
      else some (x.div Decimal.double (powerOfTen exponent.natAbs))
    else if x.isZero then some x
    else if 0 ≤ exponent then none
    else scale (x.div Decimal.double (powerOfTen 308)) (exponent + 308) fuel

/-- The greatest exponent that is told from larger ones. -/
def exponentBound : Int := Int.pow 2 31 - 1

/-- Keeps a whole number within 32 bits with sign. -/
def saturate (n : Int) : Int :=
  if exponentBound < n then exponentBound
  else if n < -exponentBound - 1 then -exponentBound - 1
  else n

/-- The floating-point value of a numeral. -/
def Numeral.double? (n : Numeral) : Option Binary :=
  let (word, left) := leadingWord 0 n.whole
  let (word, taken) := extendWord word 0 n.fraction
  let start : Int := (left : Int) - taken
  let magnitude : Option Binary :=
    match n.exponent with
    | none => scale (Decimal.double.ofInt word) start 5
    | some (negative, digits) =>
      let e := digitsValue digits
      if exponentBound < e then
        if word ≠ 0 ∧ !negative then none else some (Decimal.double.zero false)
      else
        scale (Decimal.double.ofInt word) (saturate (if negative then start - e else start + e)) 5
  magnitude.map fun x => if n.negative then x.neg else x

/-- The number that a numeral stands for. Negative zero is a floating-point number. -/
def Numeral.number? (n : Numeral) : Option Number :=
  let word := digitsValue n.whole
  if n.fraction.isEmpty && n.exponent.isNone then
    if !n.negative && word < wordBound then some (.whole word)
    else if n.negative && 0 < word && word ≤ Nat.pow 2 63 then some (.whole (-word))
    else n.double?.map .double
  else n.double?.map .double

end GuidedSynthesis.Json
