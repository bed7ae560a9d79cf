/-!
Lines of a text. A line feed ends a line and takes one carriage return before it along; a carriage
return anywhere else is an ordinary character. The last line needs no line feed, and an empty rest
after the last line feed is no line.
-/

namespace GuidedSynthesis.Text

/-- The lines of a text of which `line` (last character first) has been read. -/
def linesFrom (line : List Char) : List Char → List (List Char)
  | [] => if line.isEmpty then [] else [line.reverse]
  | c :: rest =>
    if c = '\n' then
      (match line with
        | '\r' :: more => more.reverse
        | _ => line.reverse) :: linesFrom [] rest
    else linesFrom (c :: line) rest

/-- The lines of a text, without their ends. -/
def lines (s : List Char) : List (List Char) := linesFrom [] s

end GuidedSynthesis.Text
