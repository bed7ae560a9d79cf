/-!
Binary floating-point numbers as sign, significand and exponent, with rounding done in exact
integer arithmetic.

A finite number of a format is `significand * 2 ^ exponent` with `significand < 2 ^ precision`; the
exponent is the least one unless the significand needs its top bit, so each number has one
representation. `Format.round` returns the number nearest to a quotient, and of two that are equally
near the one with the even significand.
-/

namespace GuidedSynthesis.Decimal

/-- A binary format: the bits of a significand, and the exponents of its least and greatest unit in
the last place. -/
structure Format where
  precision : Nat
  least : Int
  greatest : Int
  deriving DecidableEq, Repr

/-- The 64-bit format. -/
def double : Format := ⟨53, -1074, 971⟩

/-- The 32-bit format. -/
def single : Format := ⟨24, -149, 104⟩

/-- A number of some binary format. -/
inductive Binary where
  | finite (negative : Bool) (significand : Nat) (exponent : Int)
  | infinity (negative : Bool)
  | nan
  deriving DecidableEq, Repr

/-- The quotient rounded to the nearest whole number, a tie going to the even one. -/
def roundHalfEven (num den : Nat) : Nat :=
  let low := num / den
  let twice := 2 * (num % den)
  if twice < den then low
  else if den < twice then low + 1
  else if low % 2 = 0 then low else low + 1

/-- `num / den * 2 ^ (-shift)` as a quotient of whole numbers. -/
def scaleBy (num den : Nat) (shift : Int) : Nat × Nat :=
  if 0 ≤ shift then (num, den * Nat.pow 2 shift.toNat) else (num * Nat.pow 2 (-shift).toNat, den)

namespace Format

/-- Zero with the given sign. -/
def zero (format : Format) (negative : Bool) : Binary := .finite negative 0 format.least

/-- The exponent at which the quotient, which is not zero, fills the significand: its whole part
then has `precision` bits, unless the quotient is so small that the least exponent is used. -/
def exponentOf (format : Format) (num den : Nat) : Int :=
  let guess : Int := (num.log2 : Int) - (den.log2 : Int) - (format.precision : Int)
  let (a, b) := scaleBy num den guess
  let exponent := if b * Nat.pow 2 format.precision ≤ a then guess + 1 else guess
  if exponent < format.least then format.least else exponent

/-- The number of the format nearest to `num / den`, with the given sign. Beyond the greatest finite
number it is infinite. -/
def round (format : Format) (negative : Bool) (num den : Nat) : Binary :=
  if num = 0 then format.zero negative
  else
    let exponent := format.exponentOf num den
    let (a, b) := scaleBy num den exponent
    let significand := roundHalfEven a b
    let (significand, exponent) :=
      if significand = Nat.pow 2 format.precision then
        (Nat.pow 2 (format.precision - 1), exponent + 1)
      else (significand, exponent)
    if format.greatest < exponent then .infinity negative
    else .finite negative significand exponent

/-- The whole number in this format. -/
def ofInt (format : Format) (n : Int) : Binary := format.round (n < 0) n.natAbs 1

/-- The number nearest to `digits * 10 ^ exponent`. Exponents that no digit can reach are cut
first, so that the powers of ten stay small. -/
def ofDecimal (format : Format) (negative : Bool) (digits : Nat) (exponent : Int) : Binary :=
  if digits = 0 then format.zero negative
  else if 400 < exponent then .infinity negative
  else
    let size : Int := digits.log2
    if exponent * 3 + size < -1200 then format.zero negative
    else if 0 ≤ exponent then format.round negative (digits * Nat.pow 10 exponent.toNat) 1
    else format.round negative digits (Nat.pow 10 (-exponent).toNat)

end Format

namespace Binary

/-- Neither infinite nor NaN. -/
def isFinite : Binary → Bool
  | finite .. => true
  | _ => false

def isZero : Binary → Bool
  | finite _ significand _ => significand = 0
  | _ => false

/-- The same number with the other sign. -/
def neg : Binary → Binary
  | finite negative significand exponent => finite (!negative) significand exponent
  | infinity negative => infinity (!negative)
  | nan => nan

/-- The number in another format, rounded to nearest. -/
def convert (format : Format) : Binary → Binary
  | finite negative significand exponent =>
    if 0 ≤ exponent then format.round negative (significand * Nat.pow 2 exponent.toNat) 1
    else format.round negative significand (Nat.pow 2 (-exponent).toNat)
  | infinity negative => infinity negative
  | nan => nan

/-- The rounded product of two finite numbers; any other product is NaN here. -/
def mul (format : Format) : Binary → Binary → Binary
  | finite s m e, finite t n d =>
    let (a, b) := scaleBy (m * n) 1 (-(e + d))
    format.round (s != t) a b
  | _, _ => nan

/-- The rounded quotient of two finite numbers, the second of them not zero; any other quotient is
NaN here. -/
def div (format : Format) : Binary → Binary → Binary
  | finite s m e, finite t n d =>
    if n = 0 then nan
    else
      let (a, b) := scaleBy m n (d - e)
      format.round (s != t) a b
  | _, _ => nan

end Binary

end GuidedSynthesis.Decimal
