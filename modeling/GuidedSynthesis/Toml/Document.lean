import GuidedSynthesis.Toml.Scalar
/-!
Reading a TOML document.

A document is a sequence of lines: comments, headers that open a table, and fields of the open table.
While it is read, each table remembers how it came about, because that decides how it may be
extended: a table that a dotted key made takes further dotted keys and no header, one that only a
longer header made takes one header and no dotted keys, and one that has been opened or written as a
value takes neither.
-/

namespace GuidedSynthesis.Toml

/-- How a table came about. -/
inductive Origin where
  /-- By a header of its own, or as the top of the document. -/
  | opened
  /-- By a header of a table below it. -/
  | passed
  /-- By a dotted key. -/
  | dotted
  deriving DecidableEq, Repr

/-- An entry of a table under construction. -/
inductive Entry where
  | value (v : Toml)
  | table (origin : Origin) (fields : List (String × Entry))
  /-- The tables of one repeated header; the fields of the last one come first. -/
  | tables (items : List (List (String × Entry)))

abbrev Fields := List (String × Entry)

namespace Fields

/-- Replaces the entry of a key, or adds it at the end. -/
def set (fields : Fields) (key : String) (entry : Entry) : Fields :=
  match fields with
  | [] => [(key, entry)]
  | (k, e) :: more => if k = key then (k, entry) :: more else (k, e) :: set more key entry

/-- Changes the table at a path that a header names; tables on the way that are not there are
made. -/
def openPath (fields : Fields) : List String → (Fields → Option Fields) → Option Fields
  | [], f => f fields
  | key :: path, f =>
    match fields.lookup key with
    | none => do some (fields.set key (.table .passed (← openPath [] path f)))
    | some (.table origin inner) => do
      some (fields.set key (.table origin (← openPath inner path f)))
    | some (.tables (last :: more)) => do
      some (fields.set key (.tables ((← openPath last path f) :: more)))
    | some _ => none

/-- Adds a field under a dotted key. -/
def addField (fields : Fields) (key : String) (value : Toml) : List String → Option Fields
  | [] => if (fields.lookup key).isSome then none else some (fields ++ [(key, .value value)])
  | step :: path =>
    match fields.lookup step with
    | none => do some (fields.set step (.table .dotted (← addField [] key value path)))
    | some (.table .dotted inner) => do
      some (fields.set step (.table .dotted (← addField inner key value path)))
    | some (.table .passed inner) =>
      if path.isEmpty then none
      else do some (fields.set step (.table .passed (← addField inner key value path)))
    | some (.tables (last :: more)) =>
      if path.isEmpty then none
      else do some (fields.set step (.tables ((← addField last key value path) :: more)))
    | some _ => none

end Fields

mutual

/-- The value of an entry. -/
def Entry.toToml : Entry → Toml
  | .value v => v
  | .table _ fields => .table (Entry.fieldsToToml fields)
  | .tables items => .array (Entry.tablesToToml items).reverse

def Entry.fieldsToToml : List (String × Entry) → List (String × Toml)
  | [] => []
  | (key, entry) :: more => (key, entry.toToml) :: Entry.fieldsToToml more

def Entry.tablesToToml : List (List (String × Entry)) → List Toml
  | [] => []
  | fields :: more => .table (Entry.fieldsToToml fields) :: Entry.tablesToToml more

end

/-! ## Keys -/

def isBareKeyChar (c : Char) : Bool := c.isAlphanum || c = '_' || c = '-'

/-- One part of a key: bare, or quoted on one line. -/
def readSimpleKey : List Char → Option (String × List Char)
  | '"' :: rest =>
    (readBasic (rest.length + 1) rest).map fun (key, rest) => (String.ofList key, rest)
  | c :: rest =>
    if c = apostrophe then (readLiteral rest).map fun (key, rest) => (String.ofList key, rest)
    else
      let key := (c :: rest).takeWhile isBareKeyChar
      if key.isEmpty then none else some (String.ofList key, (c :: rest).dropWhile isBareKeyChar)
  | [] => none

/-- The parts of a key, blanks being allowed around each. -/
def readKeyParts : Nat → List Char → Option (List String × List Char)
  | 0, _ => none
  | fuel + 1, s => do
    let (part, s) ← readSimpleKey (skipSpaces s)
    match skipSpaces s with
    | '.' :: rest =>
      let (parts, rest) ← readKeyParts fuel rest
      some (part :: parts, rest)
    | rest => some ([part], rest)

/-- Neither keys nor values may go deeper than this. -/
def maxDepth : Nat := 79

/-- A key. -/
def readKey (s : List Char) : Option (List String × List Char) := do
  let (parts, rest) ← readKeyParts (s.length + 1) s
  if parts.length ≤ maxDepth then some (parts, rest) else none

/-! ## Values -/

/-- The text after the comment at its start, if there is one. -/
def skipComment : List Char → List Char
  | '#' :: rest => rest.dropWhile isPlain
  | s => s

/-- Drops blanks, comments and line ends. -/
def skipLayout : Nat → List Char → List Char
  | 0, s => s
  | fuel + 1, s =>
    let rest := skipComment (skipSpaces s)
    match afterNewline? rest with
    | some rest => skipLayout fuel rest
    | none => rest

/-- A field is added under its last key part, in the table that the other parts lead to. -/
def addPair (fields : Fields) (key : List String) (value : Toml) : Option Fields := do
  fields.addField (← key.getLast?) value key.dropLast

mutual

/-- A value at the start of a text. `depth` bounds the values around a value, the fuel the values
read. -/
def readValue (depth : Nat) : Nat → List Char → Option (Toml × List Char)
  | 0, _ => none
  | fuel + 1, s =>
    match s with
    | 't' :: 'r' :: 'u' :: 'e' :: rest => some (.boolean true, rest)
    | 'f' :: 'a' :: 'l' :: 's' :: 'e' :: rest => some (.boolean false, rest)
    | '[' :: rest =>
      match depth with
      | 0 => none
      | depth + 1 => do
        let (items, rest) ← readItems depth fuel (skipLayout rest.length rest)
        some (.array items, rest)
    | '{' :: rest =>
      match depth with
      | 0 => none
      | depth + 1 => do
        let rest := skipSpaces rest
        match rest with
        | '}' :: rest => some (.table [], rest)
        | rest =>
          let (fields, rest) ← readPairs depth fuel [] rest
          some (.table (Entry.fieldsToToml fields), rest)
    | c :: rest =>
      if c = '"' || c = apostrophe then
        (readString (c :: rest)).map fun (text, rest) => (.string (String.ofList text), rest)
      else readNumber (c :: rest)
    | [] => none

/-- The items of an array from the next one or its end on. -/
def readItems (depth : Nat) : Nat → List Char → Option (List Toml × List Char)
  | 0, _ => none
  | fuel + 1, s =>
    match s with
    | ']' :: rest => some ([], rest)
    | s => do
      let (item, rest) ← readValue depth fuel s
      match skipLayout rest.length rest with
      | ',' :: rest =>
        let (items, rest) ← readItems depth fuel (skipLayout rest.length rest)
        some (item :: items, rest)
      | ']' :: rest => some ([item], rest)
      | _ => none

/-- The fields of a table written as a value, from the next one on. -/
def readPairs (depth : Nat) : Nat → Fields → List Char → Option (Fields × List Char)
  | 0, _, _ => none
  | fuel + 1, fields, s => do
    let (key, rest) ← readKey s
    let (value, rest) ← readValue depth fuel (skipSpaces (← after? '=' rest))
    let fields ← addPair fields key value
    match skipSpaces rest with
    | ',' :: rest => readPairs depth fuel fields rest
    | '}' :: rest => some (fields, rest)
    | _ => none

end

/-! ## Documents -/

/-- The table that takes the fields at hand: where it is, and the fields it has. -/
structure OpenTable where
  path : List String
  /-- Is it one of the tables of a repeated header? -/
  isRepeated : Bool
  fields : Fields

/-- The document so far, without the open table. -/
structure Draft where
  root : Fields
  current : OpenTable

namespace Draft

def empty : Draft := ⟨[], ⟨[], false, []⟩⟩

/-- The document with the open table put in its place. -/
def close (d : Draft) : Option Fields :=
  match d.current.path.getLast? with
  | none => some d.current.fields
  | some key =>
    d.root.openPath d.current.path.dropLast fun parent =>
      if d.current.isRepeated then
        match parent.lookup key with
        | some (.tables items) => some (parent.set key (.tables (d.current.fields :: items)))
        | none => some (parent.set key (.tables [d.current.fields]))
        | _ => none
      else some (parent.set key (.table .opened d.current.fields))

/-- The fields that a table to be opened already has; none if it may not be opened. -/
def fieldsToOpen? (parent : Fields) (key : String) : Option Fields :=
  match parent.lookup key with
  | none => some []
  | some (.table .passed fields) => some fields
  | some _ => none

/-- May a repeated header add a table under the key? -/
def isRepeatable (parent : Fields) (key : String) : Bool :=
  match parent.lookup key with
  | none | some (.tables _) => true
  | some _ => false

/-- The fields of the table at a path, as a header of a table below it would find them. -/
def parent? (root : Fields) : List String → Option Fields
  | [] => some root
  | key :: path =>
    match root.lookup key with
    | none => some []
    | some (.table _ inner) => parent? inner path
    | some (.tables (last :: _)) => parent? last path
    | some _ => none

/-- Closes the open table and opens the one of a header. -/
def openTable (d : Draft) (path : List String) (isRepeated : Bool) : Option Draft := do
  let root ← d.close
  let key ← path.getLast?
  let parent ← parent? root path.dropLast
  if isRepeated then
    if isRepeatable parent key then some ⟨root, path, true, []⟩ else none
  else some ⟨root, path, false, ← fieldsToOpen? parent key⟩

def add (d : Draft) (key : List String) (value : Toml) : Option Draft := do
  some { d with current := { d.current with fields := ← addPair d.current.fields key value } }

end Draft

/-- The text after the end of a line; only blanks and a comment may come before it. -/
def afterLine? (s : List Char) : Option (List Char) :=
  match skipComment (skipSpaces s) with
  | [] => some []
  | s => afterNewline? s

/-- Reads the lines of a document. The fuel bounds their number. -/
def readLines : Nat → Draft → List Char → Option Draft
  | 0, _, _ => none
  | fuel + 1, d, s =>
    match skipSpaces s with
    | [] => some d
    | '[' :: '[' :: rest => do
      let (path, rest) ← readKey rest
      match rest with
      | ']' :: ']' :: rest => readLines fuel (← d.openTable path true) (← afterLine? rest)
      | _ => none
    | '[' :: rest => do
      let (path, rest) ← readKey rest
      readLines fuel (← d.openTable path false) (← afterLine? (← after? ']' rest))
    | c :: rest =>
      if c = '#' || c = '\n' || c = '\r' then do readLines fuel d (← afterLine? (c :: rest))
      else do
        let (key, rest) ← readKey (c :: rest)
        let rest := skipSpaces (← after? '=' rest)
        let (value, rest) ← readValue maxDepth (rest.length + 1) rest
        readLines fuel (← d.add key value) (← afterLine? rest)

/-- The byte-order mark may stand before a document. -/
def skipMark : List Char → List Char
  | c :: rest => if c.toNat = 0xfeff then rest else c :: rest
  | [] => []

/-- The table that a document stands for. -/
def parse? (text : String) : Option Toml := do
  let s := skipMark text.toList
  let draft ← readLines (s.length + 1) Draft.empty s
  some (.table (Entry.fieldsToToml (← draft.close)))

end GuidedSynthesis.Toml
