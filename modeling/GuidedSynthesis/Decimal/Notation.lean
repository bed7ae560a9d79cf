import GuidedSynthesis.Decimal.Shortest
/-!
How a decimal is written.

With the value read as `d.ddd * 10 ^ e`, a notation is positional while `e` lies in its range and
scientific outside. Positional notation always shows a fraction (`100.0`, `0.001`); scientific
notation shows the sign of the exponent and no needless fraction (`1e+16`, `2.5e-7`).
-/

namespace GuidedSynthesis.Decimal

/-- The range of exponents that are written positionally, `none` leaving that side open, and which
way exact ties go. -/
structure Style where
  least : Option Int
  greatest : Option Int
  tie : Tie

namespace Style

def isPositional (style : Style) (e : Int) : Bool :=
  style.least.all (decide <| · ≤ e) && style.greatest.all (decide <| e ≤ ·)

end Style

/-- The digits of a whole number. -/
def digitsOf (n : Nat) : List Char := Nat.toDigits 10 n

theorem isDigit_of_mem_digitsOf {n : Nat} {c : Char} (h : c ∈ digitsOf n) : c.isDigit = true :=
  Nat.isDigit_of_mem_toDigits (by decide) (by decide) h

theorem digitsOf_inj {m n : Nat} (h : digitsOf m = digitsOf n) : m = n := by
  have hread := congrArg (Nat.ofDigitChars 10 · 0) h
  simpa only [digitsOf, Nat.ofDigitChars_toDigits (b := 10) (by decide) (by decide)] using hread

/-- A whole number with its sign. -/
def intText (n : Int) : List Char :=
  if n < 0 then '-' :: digitsOf n.natAbs else digitsOf n.natAbs

/-- Digits with a point after the `e + 1`st, padded with zeros on either side. -/
def positional (digits : List Char) (e : Int) : List Char :=
  if e < 0 then "0.".toList ++ List.replicate (-e - 1).toNat '0' ++ digits
  else
    let whole := e.toNat + 1
    let padded := digits ++ List.replicate (whole - digits.length) '0'
    let fraction := padded.drop whole
    padded.take whole ++ '.' :: (if fraction.isEmpty then ['0'] else fraction)

/-- One digit before the point, and the exponent with its sign. -/
def scientific (digits : List Char) (e : Int) : List Char :=
  let head := match digits with
    | [] => []
    | [d] => [d]
    | d :: more => d :: '.' :: more
  head ++ 'e' :: (if e < 0 then '-' else '+') :: digitsOf e.natAbs

/-- A finite number of a format in a notation, by its shortest digits. -/
def Format.text (format : Format) (style : Style) (negative : Bool) (significand : Nat)
    (exponent : Int) : List Char :=
  let body :=
    if significand = 0 then "0.0".toList
    else
      let d := format.shortest style.tie significand exponent
      let digits := digitsOf d.digits
      let e := d.exponent + digits.length - 1
      if style.isPositional e then positional digits e else scientific digits e
  if negative then '-' :: body else body

end GuidedSynthesis.Decimal
