import GuidedSynthesis.Decimal.Notation
import GuidedSynthesis.Json.Record
import GuidedSynthesis.Text.Inspection
/-!
Places in a document: lines and offsets count from zero, and a range ends one past its last
character.
-/

namespace GuidedSynthesis

/-- The decimal text of a word. -/
def wordText (n : UInt32) : String := String.ofList (Decimal.digitsOf n.toNat)

/-- A line and an offset in it. -/
structure Position where
  line : UInt32
  offset : UInt32
  deriving DecidableEq, Repr, Inhabited

/-- From a position up to, not including, another one. -/
structure Range where
  start : Position
  stop : Position
  deriving DecidableEq, Repr, Inhabited

namespace Position

def text (p : Position) : String := wordText p.line ++ ":" ++ wordText p.offset

def inspect (p : Position) : Inspection :=
  .record "LinePosition" [("line", .number p.line.toNat), ("offset", .number p.offset.toNat)] false

def toJson (p : Position) : Json :=
  .object [("line", .ofNat p.line.toNat), ("offset", .ofNat p.offset.toNat)]

def decode : Json.Decoder Position := fun depth document => do
  let [line, offset] ← document.slots? ["line", "offset"] depth | none
  some ⟨← line.required .word32, ← offset.required .word32⟩

instance : Json.Codec Position := ⟨toJson, decode⟩

end Position

namespace Range

/-- `(1:4,1:9)`. -/
def text (r : Range) : String := "(" ++ r.start.text ++ "," ++ r.stop.text ++ ")"

def inspect (r : Range) : Inspection :=
  .record "LineRange" [("start", r.start.inspect), ("end", r.stop.inspect)] false

def toJson (r : Range) : Json :=
  .object [("start", r.start.toJson), ("end", r.stop.toJson)]

def decode : Json.Decoder Range := fun depth document => do
  let [start, stop] ← document.slots? ["start", "end"] depth | none
  some ⟨← start.required Position.decode, ← stop.required Position.decode⟩

instance : Json.Codec Range := ⟨toJson, decode⟩

end Range

end GuidedSynthesis
