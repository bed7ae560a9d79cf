import GuidedSynthesis.Text.Hexadecimal
/-!
Percent encoding: a character that a part of a URL cannot hold is written as the bytes of its UTF-8
form, each a percent sign and two hexadecimal digits.

A percent sign itself is always kept, so a text that is already encoded stays as it is.
-/

namespace GuidedSynthesis.Url

/-- A byte in percent encoding. -/
def escape (b : UInt8) : List Char :=
  ['%', Text.upperHexDigit (b.toNat / 16), Text.upperHexDigit (b.toNat % 16)]

/-- The text with every character escaped that is not kept. -/
def encode (kept : Char → Bool) (text : List Char) : List Char :=
  text.flatMap fun c => if kept c then [c] else (String.utf8EncodeChar c).flatMap escape

/-- The bytes of a text in which every escape stands for its byte. -/
def decode : List Char → List UInt8
  | '%' :: a :: b :: rest =>
    match Text.hexValue? a, Text.hexValue? b with
    | some high, some low => UInt8.ofNat (high * 16 + low) :: decode rest
    | _, _ => 0x25 :: decode (a :: b :: rest)
  | c :: rest => String.utf8EncodeChar c ++ decode rest
  | [] => []

/-- A visible ASCII character. -/
def isVisible (c : Char) : Bool := 0x20 < c.toNat && c.toNat < 0x7f

/-- Where nothing encloses or ends a part, it holds all ASCII characters but controls. -/
def keptAnywhere (c : Char) : Bool := c = ' ' || isVisible c

/-- A path holds visible ASCII characters other than those that mark the end of the path or are
used to enclose a URL. -/
def keptInPath (c : Char) : Bool :=
  isVisible c && !(['"', '<', '>', '\x60', '#', '?', '\x7b', '\x7d'].contains c)

/-- A fragment holds visible ASCII characters other than those that are used to enclose a URL. -/
def keptInFragment (c : Char) : Bool :=
  isVisible c && !(['"', '<', '>', '\x60'].contains c)

/-- A query holds visible ASCII characters other than quotes and angles. -/
def keptInQuery (c : Char) : Bool :=
  isVisible c && !(['"', '<', '>', '#', Char.ofNat 0x27].contains c)

end GuidedSynthesis.Url
