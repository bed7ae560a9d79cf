import GuidedSynthesis.Text.Canonical
import GuidedSynthesis.Url.Name.Direction
import GuidedSynthesis.Url.Name.Joiner
import GuidedSynthesis.Url.Name.Mapping
import GuidedSynthesis.Url.Name.Punycode
import GuidedSynthesis.Url.Percent
/-!
Names of hosts: labels with points between them, in the letters of any language.

A name is read in the form in which names are compared (`normal?`), and a label that is the code of
another is read as that one. However it is written, a label starts with no mark, its joiners show,
and it is read in one direction if any label is read from right to left.
-/

namespace GuidedSynthesis.Url

structure Name where
  labels : List (List Char)
  deriving DecidableEq, Repr

namespace Name

/-- The form in which names are compared. -/
def normal? (text : List Char) : Option (List Char) :=
  (text.mapM counted?).map fun images => Text.canonical images.flatten

/-- Beyond ASCII every character that counts can stand in a name; of ASCII, the visible ones that
mean nothing elsewhere in a URL. -/
def isNameCharacter (c : Char) : Bool :=
  0x80 ≤ c.toNat || (isVisible c && !"#/:<>?@[\\]^|%".toList.contains c)

/-- What the code of a label starts with. -/
def codeMark : List Char := "xn--".toList

/-- A label in ASCII. -/
def asciiLabel (label : List Char) : List Char :=
  if label.all (·.toNat < 0x80) then label else codeMark ++ Punycode.encode label

/-- The name in ASCII, with points between its labels. -/
def ascii (n : Name) : List Char := List.intercalate ['.'] (n.labels.map asciiLabel)

/-- Longer codes are not decoded. -/
def longestCode : Nat := 2000

/-- Labels that would need a longer code are not accepted. -/
def longestLabel : Nat := 1000

/-- The label that a written one stands for. What is written in code has to be in normal form. -/
def label? (written : List Char) : Option (List Char) :=
  match Text.afterPrefix? codeMark written with
  | none => some written
  | some code =>
    if written.getLast? = some '-' ∨ longestCode < code.length then none
    else (Punycode.decode? code).filter fun label => normal? label = some label

def isLabel (label : List Char) : Bool :=
  !label.head?.any Text.isMark && joinersShow [] label &&
    (label.all (·.toNat < 0x80) || label.length ≤ longestLabel)

/-- The name of a text, if it is one. -/
def ofChars? (text : List Char) : Option Name := do
  let normal ← normal? text
  let labels ← (Text.pieces '.' normal).mapM label?
  if normal.all isNameCharacter ∧ labels.all isLabel ∧ areOneWay labels then some ⟨labels⟩
  else none

end Name

end GuidedSynthesis.Url
