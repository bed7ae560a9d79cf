import GuidedSynthesis.Text.Search
/-!
The home directory that the system has on record for the user of a process.

The system tells the number of the user among the facts about the process, one to a line, and lists
its users one to a line, with colons between number, home directory and the rest.
-/

namespace GuidedSynthesis.CommandLine.Account

def linesOf (text : String) : List (List Char) := Text.pieces '\n' text.toList

/-- The number of the user, from the facts about a process. -/
def user? (facts : String) : Option (List Char) :=
  (linesOf facts).findSome? fun line =>
    match Text.pieces '\t' line with
    | name :: user :: _ => if name = "Uid:".toList then some user else none
    | _ => none

/-- The home directory of a user, from the list of users; an empty one counts as none. -/
def homeOf? (users : String) (user : List Char) : Option String :=
  (linesOf users).findSome? fun line =>
    match Text.pieces ':' line with
    | [_, _, number, _, _, home, _] =>
      if number = user ∧ home ≠ [] then some (String.ofList home) else none
    | _ => none

def home? (facts users : String) : Option String := (user? facts).bind (homeOf? users)

end GuidedSynthesis.CommandLine.Account
