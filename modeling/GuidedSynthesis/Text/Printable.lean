import GuidedSynthesis.Text.Category
/-!
Which characters a quoted text shows as they are.

Beyond ASCII a character is shown unless it is a control, a format character, a separator, a private
or unassigned code point, a mark that extends the grapheme before it or a filler without a form:
such a character could not be told from its surroundings.
-/

namespace GuidedSynthesis.Text

def controls : CodePoints := .read "80-9F"

/-- Marks with a width of their own that still extend the grapheme before them. -/
def extendingMarks : CodePoints := .read "
  9BE 9D7 B3E B57 BBE BD7 CC0 CC2 CC7-CC8 CCA-CCB CD5-CD6 D3E D57 DCF DDF 1715 1734 1B35 1B3B 1B3D
  1B43-1B44 1BAA 1BF2-1BF3 302E-302F A953 A9C0 111C0 11235 1133E 1134D 11357 113B8 113C2 113C5
  113C7-113C9 113CF 114B0 114BD 115AF 116B6 11930 1193D 11F41 16FF0-16FF1 1D165-1D166 1D16D-1D172"

/-- Letters without a form, which hold the place of one that is missing. -/
def fillers : CodePoints := .read "115F-1160 3164 FFA0"

/-- Characters beyond ASCII that are not shown. -/
def hidden : List CodePoints :=
  [controls, separators, formats, fillers, nonspacingMarks, extendingMarks, privateUse, unassigned]

/-- Is the character shown as it is? -/
def isShown (c : Char) : Bool :=
  if c.toNat < 0x80 then 0x20 ≤ c.toNat && c.toNat < 0x7f
  else !hidden.any (·.holds c)

end GuidedSynthesis.Text
