import GuidedSynthesis.Text.Quoted
/-!
The text of a value for those who inspect the program: named values, quoted texts, lists and records.
A record that is open has parts which are not shown.
-/

namespace GuidedSynthesis

inductive Inspection where
  /-- A constant or a number, as it stands. -/
  | word (text : String)
  /-- A text, quoted. -/
  | quoted (text : String)
  | applied (name : String) (argument : Inspection)
  | list (items : List Inspection)
  | record (name : String) (fields : List (String × Inspection)) (isOpen : Bool)

namespace Inspection

def number (n : Nat) : Inspection := .word (toString n)

/-- `None`, or `Some(..)`. -/
def option (inspect : α → Inspection) : Option α → Inspection
  | none => .word "None"
  | some a => .applied "Some" (inspect a)

mutual

def render : Inspection → String
  | .word text => text
  | .quoted text => Text.quoted text
  | .applied name argument => name ++ "(" ++ argument.render ++ ")"
  | .list items => "[" ++ ", ".intercalate (renderItems items) ++ "]"
  | .record name fields isOpen =>
    name ++ " \x7b " ++
      ", ".intercalate (renderFields fields ++ (if isOpen then [".."] else [])) ++ " \x7d"

def renderItems : List Inspection → List String
  | [] => []
  | item :: more => item.render :: renderItems more

def renderFields : List (String × Inspection) → List String
  | [] => []
  | (name, value) :: more => (name ++ ": " ++ value.render) :: renderFields more

end

end Inspection

end GuidedSynthesis
