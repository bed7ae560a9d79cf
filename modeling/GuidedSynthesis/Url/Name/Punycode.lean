import GuidedSynthesis.Text.Search
/-!
Codes in ASCII letters for labels that hold others.

The code of a label gives first its ASCII characters, then, after a hyphen, where the others are to
be inserted. They are inserted in ascending order, and each is given as the number of steps from the
insertion before it, a step being one place further on in the label or, past its end, the next code
point. The number is written in digits of base 36 with the lowest one first; how large a digit has
to be for another to follow depends on the steps so far.
-/

namespace GuidedSynthesis.Url.Punycode

/-- The value of a digit. -/
def digit? (c : Char) : Option Nat :=
  if 'a' ≤ c ∧ c ≤ 'z' then some (c.toNat - 0x61)
  else if '0' ≤ c ∧ c ≤ '9' then some (c.toNat - 0x30 + 26)
  else none

def digitOf (value : Nat) : Char :=
  if value < 26 then Char.ofNat (0x61 + value) else Char.ofNat (0x30 + value - 26)

def base : Nat := 36

/-- Where a digit of lower value ends a number; `place` is `base` at the first digit and grows by as
much at each. -/
def threshold (bias place : Nat) : Nat :=
  if place ≤ bias then 1 else if bias + 26 ≤ place then 26 else place - bias

theorem threshold_pos (bias place : Nat) : 1 ≤ threshold bias place := by
  unfold threshold
  split <;> try split
  all_goals omega

/-- Brings steps down to the range of one digit, counting the digits taken away. -/
def scaled (steps bias : Nat) : Nat :=
  if 455 < steps then scaled (steps / 35) (bias + base) else bias + base * steps / (steps + 38)
termination_by steps
decreasing_by omega

/-- The bias after an insertion that made the label `length` long. -/
def adapted (steps length : Nat) (isFirst : Bool) : Nat :=
  let damped := if isFirst then steps / 700 else steps / 2
  scaled (damped + damped / length) 0

/-! ## Decoding -/

/-- What has been decoded, and how far the next number has been read. -/
structure Decoding where
  label : List Char
  /-- The code point that was inserted last. -/
  code : Nat
  bias : Nat
  /-- The place in the label at which the number starts to count. -/
  start : Nat
  /-- The place and the steps so far. -/
  reached : Nat
  weight : Nat
  place : Nat

namespace Decoding

/-- Numbers have 32 bits. -/
def bounded? (n : Nat) : Option Nat := if n < Nat.pow 2 32 then some n else none

/-- Inserts a character where a number that is read to its end says. -/
def insert? (d : Decoding) : Option Decoding := do
  let length := d.label.length + 1
  let code := d.code + d.reached / length
  let position := d.reached % length
  if code.isValidChar then
    some { label := d.label.insertIdx position (Char.ofNat code)
           code := code
           bias := adapted (d.reached - d.start) length (d.start = 0)
           start := position + 1
           reached := position + 1
           weight := 1
           place := base }
  else none

/-- Reads a digit. -/
def step? (d : Decoding) (c : Char) : Option Decoding := do
  let digit ← digit? c
  let reached ← bounded? (d.reached + (← bounded? (digit * d.weight)))
  let threshold := threshold d.bias d.place
  if digit < threshold then insert? { d with reached }
  else
    some { d with
           reached
           weight := ← bounded? (d.weight * (base - threshold))
           place := d.place + base }

end Decoding

/-- The ASCII characters and the digits of a code. A hyphen at the start is no separator. -/
def parts (code : List Char) : List Char × List Char :=
  match Text.splitLast? ['-'] code with
  | some (c :: ascii, digits) => (c :: ascii, digits)
  | _ => ([], code)

/-- The label that a code stands for. -/
def decode? (code : List Char) : Option (List Char) := do
  let (ascii, digits) := parts code
  let start : Decoding := ⟨ascii, 0x80, 72, 0, 0, 1, base⟩
  let finished ← digits.foldlM Decoding.step? start
  if ascii.all (·.toNat < 0x80) ∧ finished.place = base then some finished.label else none

/-! ## Encoding -/

/-- The digits of a number of steps. -/
def digits (bias place steps : Nat) : List Char :=
  let least := threshold bias place
  if steps < least then [digitOf steps]
  else
    digitOf (least + (steps - least) % (base - least)) ::
      digits bias (place + base) ((steps - least) / (base - least))
termination_by steps
decreasing_by
  have positive := threshold_pos bias place
  have small := Nat.div_le_self (steps - threshold bias place) (base - threshold bias place)
  omega

/-- What has been encoded, and the steps since the last insertion. -/
structure Encoding where
  code : List Char
  steps : Nat
  bias : Nat
  /-- How many characters of the label are encoded. -/
  length : Nat
  isFirst : Bool

/-- Takes a step past a character, or inserts it if its turn has come. -/
def Encoding.pass (turn : Nat) (e : Encoding) (c : Char) : Encoding :=
  if c.toNat < turn then { e with steps := e.steps + 1 }
  else if c.toNat = turn then
    { code := e.code ++ digits e.bias base e.steps
      steps := 0
      bias := adapted e.steps (e.length + 1) e.isFirst
      length := e.length + 1
      isFirst := false }
  else e

/-- Inserts the characters whose code points are listed in ascending order, from `next` on. -/
def Encoding.finish (label : List Char) (next : Nat) (e : Encoding) : List Nat → List Char
  | [] => e.code
  | turn :: more =>
    let ready := { e with steps := e.steps + (turn - next) * (e.length + 1) }
    let passed := label.foldl (Encoding.pass turn) ready
    Encoding.finish label (turn + 1) { passed with steps := passed.steps + 1 } more

/-- The code of a label. -/
def encode (label : List Char) : List Char :=
  let ascii := label.filter (·.toNat < 0x80)
  let others := (label.filter (0x80 ≤ ·.toNat)).map Char.toNat
  let code := if ascii.isEmpty then [] else ascii ++ ['-']
  Encoding.finish label 0x80 ⟨code, 0, 72, ascii.length, true⟩
    (others.mergeSort (· ≤ ·)).eraseDups

end GuidedSynthesis.Url.Punycode
