import GuidedSynthesis.Text.Printable
/-!
Quoted text: between quotation marks, with escapes for the marks themselves and for everything that
would not be seen.
-/

namespace GuidedSynthesis.Text

/-- A character inside quotation marks. -/
def escaped (c : Char) : List Char :=
  if c = Char.ofNat 0 then ['\\', '0']
  else if c = '\t' then ['\\', 't']
  else if c = '\n' then ['\\', 'n']
  else if c = '\r' then ['\\', 'r']
  else if c = '"' then ['\\', '"']
  else if c = '\\' then ['\\', '\\']
  else if isShown c then [c]
  else '\\' :: 'u' :: '{' :: (Nat.toDigits 16 c.toNat ++ ['}'])

/-- The text in quotation marks. -/
def quoted (s : String) : String := String.ofList ('"' :: (s.toList.flatMap escaped ++ ['"']))

end GuidedSynthesis.Text
