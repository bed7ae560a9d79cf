/-!
Grammars of command lines: commands inside commands, options at each of them, and operands.

An option is named after two dashes, or by a letter after one; letters that take nothing may stand
together. The value of an option follows an equals sign, follows its letter at once, or is the next
argument, which must not look like an option then. After `--` everything is an operand. Reading stops
at the first argument that is wrong or that asks for help.
-/

namespace GuidedSynthesis.CommandLine

/-- What an option takes. -/
inductive Takes where
  /-- Nothing; it may be given once. -/
  | nothing
  /-- Nothing; it may be given any number of times. -/
  | nothingOften
  | text
  /-- A path, which is not empty. -/
  | path
  | paths
  | texts
  | oneOf (choices : List String)
  | help
  | version
  deriving DecidableEq, Repr

structure Opt where
  name : String
  letter : Option Char
  takes : Takes
  deriving DecidableEq, Repr

namespace Opt

def takesValue (o : Opt) : Bool :=
  match o.takes with
  | .nothing | .nothingOften | .help | .version => false
  | _ => true

def mayRepeat (o : Opt) : Bool :=
  match o.takes with
  | .nothingOften | .paths | .texts => true
  | _ => false

/-- Is this a value of the option? -/
def admits (o : Opt) (value : String) : Bool :=
  match o.takes with
  | .path | .paths => value ≠ ""
  | .oneOf choices => choices.contains value
  | _ => true

end Opt

/-- A command with its options, the number of its operands and the commands inside it. One of these
has to be given if there are any. -/
inductive Grammar where
  | mk (options : List Opt) (operands : Nat) (commands : List (String × Grammar))

namespace Grammar

def options : Grammar → List Opt
  | mk options _ _ => options

def operands : Grammar → Nat
  | mk _ operands _ => operands

def commands : Grammar → List (String × Grammar)
  | mk _ _ commands => commands

end Grammar

/-- Why reading stops. -/
inductive Stop where
  | misuse
  | help
  | version
  deriving DecidableEq, Repr

/-- What was given to one command: its options with their values, and its operands. -/
structure Level where
  given : List (String × String)
  operands : List String
  deriving DecidableEq, Repr

namespace Level

def empty : Level := ⟨[], []⟩

def has (l : Level) (name : String) : Bool := l.given.any (·.1 = name)

/-- The value of an option that is given once. -/
def value? (l : Level) (name : String) : Option String := l.given.lookup name

/-- The values of an option, in order. -/
def values (l : Level) (name : String) : List String :=
  (l.given.filter (·.1 = name)).map (·.2)

/-- Takes in an option. -/
def accept (l : Level) (o : Opt) (value : String) : Except Stop Level :=
  match o.takes with
  | .help => .error .help
  | .version => .error .version
  | _ =>
    if (l.has o.name && !o.mayRepeat) || !o.admits value then .error .misuse
    else .ok { l with given := l.given ++ [(o.name, value)] }

/-- Takes in an operand, a path. -/
def addOperand (l : Level) (g : Grammar) (operand : String) : Except Stop Level :=
  if l.operands.length < g.operands ∧ operand ≠ "" then
    .ok { l with operands := l.operands ++ [operand] }
  else .error .misuse

end Level

/-- The commands that were given, and what was given to each level: first to the program itself. -/
structure Reading where
  commands : List String
  levels : List Level
  deriving DecidableEq, Repr

namespace Grammar

/-- An argument that is not taken for a value. -/
def looksLikeOption (argument : String) : Bool :=
  match argument.toList with
  | '-' :: _ :: _ => true
  | _ => false

/-- Letters after one dash: the level after them, and the option that still wants its value. -/
def letters (g : Grammar) (level : Level) : List Char → Except Stop (Level × Option Opt)
  | [] => .ok (level, none)
  | c :: rest =>
    match g.options.find? (·.letter = some c) with
    | none => .error .misuse
    | some o =>
      if !o.takesValue then do g.letters (← level.accept o "") rest
      else
        match rest with
        | [] => .ok (level, some o)
        | '=' :: value => do .ok (← level.accept o (String.ofList value), none)
        | value => do .ok (← level.accept o (String.ofList value), none)

/-- An option by its name, with the value that may follow an equals sign. -/
def named (g : Grammar) (level : Level) (text : List Char) : Except Stop (Level × Option Opt) :=
  let name := String.ofList (text.takeWhile (· ≠ '='))
  match g.options.find? (·.name = name), text.dropWhile (· ≠ '=') with
  | none, _ => .error .misuse
  | some o, [] => if o.takesValue then .ok (level, some o) else do .ok (← level.accept o "", none)
  | some o, _ :: value =>
    if o.takesValue then do .ok (← level.accept o (String.ofList value), none)
    else .error .misuse

/-- The end of a command line. -/
def finish (g : Grammar) (r : Reading) (level : Level) : Except Stop Reading :=
  if g.commands.isEmpty ∧ level.operands.length = g.operands then
    .ok { r with levels := r.levels ++ [level] }
  else .error .misuse

/-- Help on a command, if there is such a command. -/
def helpOn (g : Grammar) : List String → Stop
  | [] => .help
  | name :: rest =>
    match g.commands.lookup name with
    | some inner => inner.helpOn rest
    | none => .misuse

/-- Reads arguments on from a level; `r` holds the levels before it. -/
def readFrom (g : Grammar) (r : Reading) (level : Level) : List String → Except Stop Reading
  | [] => g.finish r level
  | argument :: rest =>
    match argument.toList with
    | ['-', '-'] => do
      let level ← rest.foldlM (fun (level : Level) operand => level.addOperand g operand) level
      g.finish r level
    | '-' :: c :: more =>
      match if c = '-' then g.named level more else g.letters level (c :: more) with
      | .error stop => .error stop
      | .ok (level, none) => g.readFrom r level rest
      | .ok (level, some o) =>
        match rest with
        | [] => .error .misuse
        | value :: rest =>
          if looksLikeOption value then .error .misuse
          else
            match level.accept o value with
            | .error stop => .error stop
            | .ok level => g.readFrom r level rest
    | _ =>
      match g.commands.lookup argument with
      | some inner =>
        inner.readFrom ⟨r.commands ++ [argument], r.levels ++ [level]⟩ .empty rest
      | none =>
        if argument = "help" ∧ !g.commands.isEmpty then .error (g.helpOn rest)
        else
          match level.addOperand g argument with
          | .error stop => .error stop
          | .ok level => g.readFrom r level rest

def read (g : Grammar) (arguments : List String) : Except Stop Reading :=
  g.readFrom ⟨[], []⟩ .empty arguments

end Grammar

end GuidedSynthesis.CommandLine
