import GuidedSynthesis.Url.Host
/-!
URLs, read as the living standard reads them: leniently and without a base.

Blanks around the text and line breaks and tabs inside it do not count; a scheme of the web takes
any number of slashes, of either kind, before its host; `.` and `..` in the path are resolved; what
a part cannot hold is percent-encoded. What comes before an `@` is checked and then dropped, for it
is no part of what is asked for.
-/

namespace GuidedSynthesis

structure Url where
  /-- In lower case. -/
  scheme : String
  host : Option Url.Host
  portNumber : Option Nat
  path : String
  query : Option String
  fragment : Option String
  deriving DecidableEq, Repr

namespace Url

/-! ## The parts -/

/-- The text without controls and blanks around it and without tabs and line breaks. -/
def cleaned (text : List Char) : List Char :=
  let isOuter (c : Char) : Bool := c.toNat ≤ 0x20
  (((text.dropWhile isOuter).reverse.dropWhile isOuter).reverse).filter
    fun c => !(['\t', '\n', '\r'].contains c)

def isSchemeCharacter (c : Char) : Bool :=
  c.isAlphanum || c = '+' || c = '-' || c = '.'

/-- The scheme, in lower case, and what follows its colon. -/
def scheme? (text : List Char) : Option (List Char × List Char) :=
  match text.takeWhile isSchemeCharacter, text.dropWhile isSchemeCharacter with
  | first :: more, ':' :: rest =>
    if first.isAlpha then some ((first :: more).map Char.toLower, rest) else none
  | _, _ => none

inductive SchemeKind where
  | web
  | file
  | other
  deriving DecidableEq, Repr

def schemeKind (scheme : List Char) : SchemeKind :=
  if scheme = "file".toList then .file
  else if ["http", "https", "ws", "wss", "ftp"].any (·.toList = scheme) then .web
  else .other

/-- Does a slash of either kind separate? Only the other schemes tell the two apart. -/
def isSlash (kind : SchemeKind) (c : Char) : Bool := c = '/' || (c = '\\' && kind ≠ .other)

/-- Where an authority ends. -/
def endsAuthority (kind : SchemeKind) (c : Char) : Bool :=
  isSlash kind c || c = '?' || c = '#'

/-- The host and what follows it; a colon in brackets belongs to the host. -/
def splitHost (inBrackets : Bool) : List Char → List Char × List Char
  | [] => ([], [])
  | c :: rest =>
    if c = ':' ∧ !inBrackets then ([], c :: rest)
    else
      let (host, after) := splitHost ((inBrackets || c = '[') && c ≠ ']') rest
      (c :: host, after)

/-- The number after the colon of a host, if one is given, and what is left of the authority. -/
def portNumber? : List Char → Except Fault (Option Nat × List Char)
  | ':' :: rest =>
    let digits := rest.takeWhile Char.isDigit
    let after := rest.dropWhile Char.isDigit
    let number := (number? 10 digits).getD 0
    if number > 65535 ∨ !(after.isEmpty || after.head? = some '\\') then .error .invalidPort
    else .ok (if digits.isEmpty then none else some number, after)
  | rest => .ok (none, rest)

structure Authority where
  host : Option Host
  portNumber : Option Nat

/-- The authority that a text begins with, and what follows it. -/
def authority? (kind : SchemeKind) (text : List Char) : Except Fault (Authority × List Char) := do
  let authority := text.takeWhile (!endsAuthority kind ·)
  let after := text.dropWhile (!endsAuthority kind ·)
  let (user?, place) :=
    match Text.splitLast? ['@'] authority with
    | some (user, place) => (some user, place)
    | none => (none, authority)
  let (hostText, afterHost) := splitHost false place
  if hostText.isEmpty then
    let isNamed := user?.any fun user => !(user.isEmpty && after.isEmpty) && user ≠ [':']
    if kind = .web ∨ isNamed ∨ afterHost.head? = some ':' then .error .emptyHost
    else .ok (⟨none, none⟩, afterHost ++ after)
  else
    let host ← if kind = .other then Host.parseOpaque? hostText else Host.parse? hostText
    let (number, afterNumber) ← portNumber? afterHost
    .ok (⟨some host, number⟩, afterNumber ++ after)

/-! ## The path -/

/-- The segments of a path; the slash before the first one is not given. -/
def segments (kind : SchemeKind) : List Char → List (List Char)
  | [] => [[]]
  | c :: rest =>
    if isSlash kind c then [] :: segments kind rest
    else
      match segments kind rest with
      | segment :: more => (c :: segment) :: more
      | [] => [[c]]

/-- A segment in which escaped dots are dots. -/
def withDots : List Char → List Char
  | '%' :: '2' :: e :: rest =>
    if e = 'e' ∨ e = 'E' then '.' :: withDots rest else '%' :: withDots ('2' :: e :: rest)
  | c :: rest => c :: withDots rest
  | [] => []

def isDriveLetter : List Char → Bool
  | [letter, mark] => letter.isAlpha && (mark = ':' || mark = '|')
  | _ => false

/-- The segments, last one first, that are left when the last one is gone back from. A drive letter
is never left. -/
def leave : List (List Char) → List (List Char)
  | [] => []
  | segment :: before => if isDriveLetter segment then segment :: before else before

/-- The segments that are reached from those passed so far (last one first). -/
def resolve (passed : List (List Char)) : List (List Char) → List (List Char)
  | [] => passed.reverse
  | segment :: rest =>
    let isLast := rest.isEmpty
    if withDots segment = ['.', '.'] then
      resolve (if isLast then [] :: leave passed else leave passed) rest
    else if withDots segment = ['.'] then
      resolve (if isLast then [] :: passed else passed) rest
    else resolve (segment :: passed) rest

/-- The path of a URL that has one, from the text after the authority. -/
def pathOf (kind : SchemeKind) (text : List Char) : List Char :=
  let relative :=
    match text with
    | c :: rest => if isSlash kind c then rest else c :: rest
    | [] => []
  (resolve [] ((segments kind relative).map (encode keptInPath))).flatMap ('/' :: ·)

/-! ## Reading -/

/-- The text before the first `mark`, and the text after it. -/
def cutAt (mark : Char) (text : List Char) : List Char × Option (List Char) :=
  match Text.splitFirst? [mark] text with
  | some (before, after) => (before, some after)
  | none => (text, none)

/-- The URL of a scheme and an authority, from the text after them. -/
def ofParts (scheme : List Char) (authority : Authority) (path : List Char → List Char)
    (text : List Char) : Url :=
  let (beforeFragment, fragment) := cutAt '#' text
  let (beforeQuery, query) := cutAt '?' beforeFragment
  { scheme := String.ofList scheme
    host := authority.host
    portNumber := authority.portNumber
    path := String.ofList (path beforeQuery)
    query := query.map fun query => String.ofList (encode keptInQuery query)
    fragment := fragment.map fun fragment => String.ofList (encode keptInFragment fragment) }

/-- The host of a file. A drive letter in its place is the start of the path. -/
def fileHost? (kind : SchemeKind) (text : List Char) : Except Fault (Authority × List Char) := do
  let host := text.takeWhile (!endsAuthority kind ·)
  let after := text.dropWhile (!endsAuthority kind ·)
  if host.isEmpty ∨ isDriveLetter host then .ok (⟨none, none⟩, text)
  else
    match ← Host.parse? host with
    | .domain "localhost" => .ok (⟨none, none⟩, after)
    | host => .ok (⟨some host, none⟩, after)

def parseChars? (text : List Char) : Except Fault Url := do
  match scheme? (cleaned text) with
  | none => .error .relativeWithoutBase
  | some (scheme, rest) =>
    match schemeKind scheme with
    | .web =>
      let (authority, after) ← authority? .web (rest.dropWhile (isSlash .web))
      .ok (ofParts scheme authority (pathOf .web) after)
    | .file =>
      match rest with
      | a :: b :: after =>
        if isSlash .file a ∧ isSlash .file b then
          let (authority, after) ← fileHost? .file after
          .ok (ofParts scheme authority (pathOf .file) after)
        else .ok (ofParts scheme ⟨none, none⟩ (pathOf .file) rest)
      | _ => .ok (ofParts scheme ⟨none, none⟩ (pathOf .file) rest)
    | .other =>
      match rest with
      | '/' :: '/' :: after =>
        let (authority, after) ← authority? .other after
        .ok (ofParts scheme authority (fun path => if path.isEmpty then [] else pathOf .other path)
          after)
      | '/' :: _ => .ok (ofParts scheme ⟨none, none⟩ (pathOf .other) rest)
      | _ => .ok (ofParts scheme ⟨none, none⟩ (encode keptAnywhere) rest)

def parse? (text : String) : Except Fault Url := parseChars? text.toList

/-! ## Asking -/

/-- Who is asked, and whether in secret. -/
structure Address where
  isSecret : Bool
  host : Host
  portNumber : Nat
  deriving DecidableEq, Repr

/-- No request is sent to a host whose name has one of these in it. -/
def unaskable : List Char := ['"', '\x60', '\x7b', '\x7d']

def isAskable : Host → Bool
  | .domain name => !name.toList.any unaskable.contains
  | _ => true

/-- The number of the place to ask at, if none is given. -/
def usualPort (isSecret : Bool) : Nat := if isSecret then 443 else 80

/-- The start of a URL. -/
def Address.text (a : Address) : String :=
  (if a.isSecret then "https://" else "http://") ++ a.host.text ++
    (if a.portNumber = usualPort a.isSecret then ""
      else ":" ++ String.ofList (Nat.toDigits 10 a.portNumber))

/-- Who is asked, if there is a host and the way to ask it is known. -/
def address? (u : Url) : Option Address := do
  let isSecret ← [("http", false), ("https", true)].lookup u.scheme
  let host ← u.host
  if isAskable host then some ⟨isSecret, host, u.portNumber.getD (usualPort isSecret)⟩ else none

/-- What the host is asked for: path and query. -/
def target (u : Url) : String :=
  match u.query with
  | some query => u.path ++ "?" ++ query
  | none => u.path

/-- The bytes of a URL that is asked for; what stands for a part of the answer counts as well. -/
def size (u : Url) (a : Address) : Nat :=
  (a.text ++ u.target ++ ((u.fragment.map ("#" ++ ·)).getD "")).utf8ByteSize

/-- Longer URLs are not asked for. -/
def longest : Nat := 65534

end Url

end GuidedSynthesis
