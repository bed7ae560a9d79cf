import GuidedSynthesis.Text.Hexadecimal
import GuidedSynthesis.Text.Search
/-!
Sets of code points, and texts that code points stand for, as tables that are read from text.

A set is written as spans in hexadecimal with blanks between them: `AD 300-36F`. A table of images
is written as rules, a source before `>` and images after it, an image being code points with points
between them:

* `AF>20.304` gives one code point its image, and `B2>32,33` gives images to as many in a row;
* `C0-D6>E0` gives each code point of a span one code point, in a row from the one named;
* `100~12E>101` does so for every second code point, each image as far on as its source;
* `1C4=1C6>64.17E` gives all of a span the same image.
-/

namespace GuidedSynthesis.Text

/-- The code points from the first to the last. -/
structure Span where
  first : Nat
  last : Nat
  deriving DecidableEq, Repr

def Span.holds (s : Span) (c : Char) : Bool := s.first ≤ c.toNat && c.toNat ≤ s.last

/-- A set of code points. -/
abbrev CodePoints := List Span

def CodePoints.holds (s : CodePoints) (c : Char) : Bool := s.any (·.holds c)

/-! ## Reading sets -/

/-- What stands between blanks and line breaks. -/
def words (text : String) : List (List Char) :=
  (pieces ' ' (text.toList.map fun c => if c = '\n' then ' ' else c)).filter (!·.isEmpty)

def codePoint (digits : List Char) : Nat := (hexNumber? digits).getD 0

def Span.ofChars (text : List Char) : Span :=
  match pieces '-' text with
  | [first, last] => ⟨codePoint first, codePoint last⟩
  | _ => ⟨codePoint text, codePoint text⟩

def CodePoints.read (text : String) : CodePoints := (words text).map Span.ofChars

/-! ## Images -/

inductive Images where
  /-- All code points have the one image. -/
  | same (image : List Char)
  /-- Every `stride`th code point, from the first on, has an image of one code point that is as far
  from `start` as its source is from the first. -/
  | inStep (stride start : Nat)
  /-- The code points have an image each. -/
  | listed (images : List (List Char))
  deriving DecidableEq, Repr

structure ImageRule where
  source : Span
  images : Images
  deriving DecidableEq, Repr

def ImageRule.image? (r : ImageRule) (c : Char) : Option (List Char) :=
  if r.source.holds c then
    let offset := c.toNat - r.source.first
    match r.images with
    | .same image => some image
    | .inStep stride start =>
      if offset % stride = 0 then some [Char.ofNat (start + offset)] else none
    | .listed images => images[offset]?
  else none

abbrev ImageTable := List ImageRule

/-- The image that the first rule for a code point gives it. -/
def ImageTable.image? (table : ImageTable) (c : Char) : Option (List Char) :=
  table.findSome? (·.image? c)

/-! ## Reading images -/

def ImageRule.ofChars (text : List Char) : ImageRule :=
  let (source, target) := (splitFirst? ['>'] text).getD (text, [])
  let images := (pieces ',' target).map fun image =>
    (pieces '.' image).map fun digits => Char.ofNat (codePoint digits)
  let firstImage := images.headD []
  let start := (firstImage.headD (Char.ofNat 0)).toNat
  match pieces '-' source, pieces '~' source, pieces '=' source with
  | [a, b], _, _ => ⟨⟨codePoint a, codePoint b⟩, .inStep 1 start⟩
  | _, [a, b], _ => ⟨⟨codePoint a, codePoint b⟩, .inStep 2 start⟩
  | _, _, [a, b] => ⟨⟨codePoint a, codePoint b⟩, .same firstImage⟩
  | _, _, _ => ⟨⟨codePoint source, codePoint source + images.length - 1⟩, .listed images⟩

def ImageTable.read (text : String) : ImageTable := (words text).map ImageRule.ofChars

end GuidedSynthesis.Text
