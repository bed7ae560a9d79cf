import GuidedSynthesis.Text.Canonical.Table
/-!
The canonical form of a text.

Texts that are canonically equivalent look the same and mean the same: a letter with an accent is
equivalent to the letter followed by the accent, and two accents that do not touch may stand in
either order. The canonical form is the one in which marks stand in the order of their classes and
all that can be composed is.
-/

namespace GuidedSynthesis.Text

/-- No code point below is a mark. -/
def firstMark : Nat := 0x300

/-- The class of a mark: marks of different classes do not touch. Other characters have class zero,
and so do marks that keep their place. -/
def markClass (c : Char) : Nat :=
  if c.toNat < firstMark then 0
  else ((markClasses.find? fun entry => entry.2.holds c).map (·.1)).getD 0

/-! ## Syllables of Hangul, which are composed by calculation -/

namespace Hangul

/-- The syllables lie in the order of their leading consonant, their vowel and their trailing
consonant, if they have one. -/
def firstSyllable : Nat := 0xac00

def firstLeading : Nat := 0x1100

def firstVowel : Nat := 0x1161

/-- The place before the first trailing consonant stands for none. -/
def noTrailing : Nat := 0x11a7

def vowelCount : Nat := 21

def trailingCount : Nat := 28

def isSyllable (n : Nat) : Bool := firstSyllable ≤ n && n < 0xd7a4

/-- The letters of a syllable. -/
def letters (n : Nat) : List Nat :=
  let index := n - firstSyllable
  let leading := firstLeading + index / (vowelCount * trailingCount)
  let vowel := firstVowel + index / trailingCount % vowelCount
  if index % trailingCount = 0 then [leading, vowel]
  else [leading, vowel, noTrailing + index % trailingCount]

/-- The syllable of two letters, or of a syllable that lacks its trailing consonant and one. -/
def composed? (a b : Nat) : Option Nat :=
  if firstLeading ≤ a ∧ a < 0x1113 ∧ firstVowel ≤ b ∧ b < firstVowel + vowelCount then
    some (firstSyllable +
      ((a - firstLeading) * vowelCount + (b - firstVowel)) * trailingCount)
  else if isSyllable a ∧ (a - firstSyllable) % trailingCount = 0 ∧ noTrailing < b ∧
      b < noTrailing + trailingCount then
    some (a + (b - noTrailing))
  else none

end Hangul

/-! ## Taking apart -/

/-- The characters that one is equivalent to: no ASCII character is equivalent to others. No
decomposition goes deeper than `depth` levels. -/
def decomposed : (depth : Nat) → Char → List Char
  | 0, c => [c]
  | depth + 1, c =>
    if c.toNat < 0x80 then [c]
    else if Hangul.isSyllable c.toNat then (Hangul.letters c.toNat).map Char.ofNat
    else
      match (composites.image? c).or (replacements.image? c) with
      | some parts => parts.flatMap (decomposed depth)
      | none => [c]

def deepest : Nat := 5

/-! ## Putting in order -/

/-- Puts a character before an ordered text; a mark moves behind the marks of lower classes. -/
def placed (c : Char) : List Char → List Char
  | [] => [c]
  | d :: rest =>
    if markClass d ≠ 0 ∧ markClass d < markClass c then d :: placed c rest else c :: d :: rest

def ordered (text : List Char) : List Char := text.foldr placed []

/-! ## Composing -/

/-- The character that is equivalent to two, the second of which is a mark or a letter of Hangul: no
character before the first mark is composed with one before it. -/
def composed? (a b : Char) : Option Char :=
  if b.toNat < firstMark then none else
  match Hangul.composed? a.toNat b.toNat with
  | some n => some (Char.ofNat n)
  | none =>
    composites.findSome? fun rule =>
      match rule.images with
      | .same image => if image = [a, b] then some (Char.ofNat rule.source.first) else none
      | .inStep .. => none
      | .listed images =>
        (images.findIdx? (· = [a, b])).map fun i => Char.ofNat (rule.source.first + i)

/-- Composes a character with what follows it. `marks` stand between the two and were not composed:
one of the same class or a higher one keeps a mark away from the character. -/
def composedFrom (base : Char) (marks : List Char) : List Char → List Char
  | [] => base :: marks
  | c :: rest =>
    let isNext := marks.getLast?.all fun mark => markClass mark < markClass c
    match if isNext then composed? base c else none with
    | some composite => composedFrom composite marks rest
    | none =>
      if markClass c = 0 then base :: marks ++ composedFrom c [] rest
      else composedFrom base (marks ++ [c]) rest

/-- Composes an ordered text. Marks at its start have nothing to be composed with. -/
def composed : List Char → List Char
  | [] => []
  | c :: rest => if markClass c = 0 then composedFrom c [] rest else c :: composed rest

/-- The canonical form of a text. -/
def canonical (text : List Char) : List Char :=
  composed (ordered (text.flatMap (decomposed deepest)))

end GuidedSynthesis.Text
