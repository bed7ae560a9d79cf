import GuidedSynthesis.Decimal.Binary
/-!
The shortest decimal that reads back.

The reals that round to a binary number form an interval around it, ends included when the
significand is even. For one digit, two digits and so on, the two decimals next to the number on the
grid with that many digits are tried; the first grid that has one inside the interval wins, and of
two the nearer. Of two that are equally near, a `Tie` says which is taken.
-/

namespace GuidedSynthesis.Decimal

/-- How many decimal digits a whole number has; zero has one. -/
def digitCount (n : Nat) : Nat := (Nat.toDigits 10 n).length

/-- The decimal exponent of the leading digit of `num / den`, neither being zero. -/
def decade (num den : Nat) : Int :=
  if den ≤ num then (digitCount (num / den) : Int) - 1
  else -(digitCount ((den + num - 1) / num - 1) : Int)

/-- `digits * 10 ^ exponent`. -/
structure Digits where
  digits : Nat
  exponent : Int
  deriving DecidableEq, Repr

/-- Which of two decimals that are equally near is taken. -/
inductive Tie where
  /-- The one whose last digit is even. -/
  | toEven
  /-- The one that is further from zero. -/
  | away
  deriving DecidableEq, Repr

/-- Is the upper one of two decimals taken, the lower one having these digits? -/
def Tie.goesUp (tie : Tie) (lower : Nat) : Bool :=
  match tie with
  | toEven => lower % 2 = 1
  | away => true

/-- The reals that round to `value / scale`: between `low / scale` and `high / scale`. -/
structure Interval where
  low : Nat
  value : Nat
  high : Nat
  scale : Nat
  closed : Bool

/-- The interval of reals that round to `significand * 2 ^ exponent`. Below a power of two the
neighbour is only half as far away. -/
def Format.interval (format : Format) (significand : Nat) (exponent : Int) : Interval :=
  let unit := if 0 ≤ exponent then Nat.pow 2 exponent.toNat else 1
  let scale := if 0 ≤ exponent then 4 else 4 * Nat.pow 2 (-exponent).toNat
  let below :=
    if significand = Nat.pow 2 (format.precision - 1) ∧ format.least < exponent then 1 else 2
  { low := (4 * significand - below) * unit
    value := 4 * significand * unit
    high := (4 * significand + 2) * unit
    scale := scale
    closed := significand % 2 = 0 }

namespace Interval

/-- Is `num / den` in the interval? -/
def holds (i : Interval) (num den : Nat) : Bool :=
  if i.closed then i.low * den ≤ num * i.scale && num * i.scale ≤ i.high * den
  else i.low * den < num * i.scale && num * i.scale < i.high * den

/-- The best decimal `d * 10 ^ exponent` of the interval, if the grid has one. -/
def onGrid? (i : Interval) (tie : Tie) (exponent : Int) : Option Digits :=
  let up := Nat.pow 10 exponent.toNat
  let down := Nat.pow 10 (-exponent).toNat
  let floor := i.value * down / (i.scale * up)
  let inside (d : Nat) : Bool := i.holds (d * up) down
  -- twice the distance to the lower point, against one step of the grid
  let rest := i.value * down % (i.scale * up)
  let upperNearer : Bool :=
    i.scale * up < 2 * rest || (2 * rest == i.scale * up && tie.goesUp floor)
  match decide (0 < floor) && inside floor, inside (floor + 1) with
  | true, true => some ⟨if upperNearer then floor + 1 else floor, exponent⟩
  | true, false => some ⟨floor, exponent⟩
  | false, true => some ⟨floor + 1, exponent⟩
  | false, false => none

/-- Tries the grids with the leading digit at `top`, from `count` digits on. -/
def shortestFrom (i : Interval) (tie : Tie) (top : Int) (count : Nat) : Nat → Digits
  | 0 => ⟨0, 0⟩
  | fuel + 1 =>
    match i.onGrid? tie (top - count + 1) with
    | some digits => digits
    | none => shortestFrom i tie top (count + 1) fuel

end Interval

/-- Drops trailing zeros of the digits; `fuel` bounds their number. -/
def Digits.normal (d : Digits) : Nat → Digits
  | 0 => d
  | fuel + 1 =>
    if d.digits ≠ 0 ∧ d.digits % 10 = 0 then Digits.normal ⟨d.digits / 10, d.exponent + 1⟩ fuel
    else d

/-- The shortest decimal of a format that reads back as `significand * 2 ^ exponent`, which is not
zero. Seventeen digits tell any two numbers of the 64-bit format apart. -/
def Format.shortest (format : Format) (tie : Tie) (significand : Nat) (exponent : Int) : Digits :=
  let i := format.interval significand exponent
  (i.shortestFrom tie (decade i.value i.scale) 1 18).normal 20

end GuidedSynthesis.Decimal
