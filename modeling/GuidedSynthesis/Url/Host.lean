import GuidedSynthesis.Text.Hexadecimal
import GuidedSynthesis.Text.Search
import GuidedSynthesis.Url.Fault
import GuidedSynthesis.Url.Name
import GuidedSynthesis.Url.Percent
/-!
Hosts: addresses of the two versions of the internet protocol, and names.

An address of version 6 stands in brackets. Any other host of a scheme of the web is a name, and a
name whose last label is a number is an address of version 4. Other schemes take their hosts as they
are written.
-/

namespace GuidedSynthesis.Url

inductive Host where
  /-- A name, in ASCII. -/
  | domain (name : String)
  | ipv4 (address : Nat)
  /-- The eight groups of sixteen bits. -/
  | ipv6 (groups : List Nat)
  deriving DecidableEq, Repr

/-- The number that digits of a base up to sixteen stand for. -/
def number? (base : Nat) (digits : List Char) : Option Nat :=
  digits.foldlM (fun n c => do
    let value ← Text.hexValue? c
    if value < base then some (n * base + value) else none) 0

/-! ## Version 4 -/

/-- A number of an address: hexadecimal after `0x`, octal after another zero, else decimal. -/
def ipv4Number? : List Char → Option Nat
  | [] => none
  | '0' :: 'x' :: digits => number? 16 digits
  | '0' :: 'X' :: digits => number? 16 digits
  | '0' :: c :: digits => number? 8 (c :: digits)
  | digits => number? 10 digits

/-- The labels of a name; one empty label at the end is not counted. -/
def labels (name : List Char) : List (List Char) :=
  let parts := Text.pieces '.' name
  if parts.length > 1 ∧ parts.getLast? = some [] then parts.dropLast else parts

/-- Is the last label of a name a number? -/
def endsInNumber (name : List Char) : Bool :=
  match (labels name).getLast? with
  | some label =>
    (!label.isEmpty && label.all Char.isDigit) || (ipv4Number? label).isSome
  | none => false

/-- The address of up to four numbers: the last one fills all bytes that the others leave. -/
def ipv4OfNumbers? (numbers : List Nat) : Option Nat :=
  match numbers.reverse with
  | [] => none
  | last :: before =>
    if before.length ≤ 3 ∧ before.all (· ≤ 255) ∧ last < Nat.pow 256 (4 - before.length) then
      some (before.reverse.foldl (fun n byte => n * 256 + byte) 0
        * Nat.pow 256 (4 - before.length) + last)
    else none

def ipv4? (name : List Char) : Option Nat := do
  ipv4OfNumbers? (← (labels name).mapM ipv4Number?)

/-! ## Version 6 -/

/-- A byte in decimal digits, without a zero before them. -/
def byte? (digits : List Char) : Option Nat := do
  let value ← number? 10 digits
  if digits ≠ [] ∧ (digits = ['0'] ∨ digits.head? ≠ some '0') ∧ value ≤ 255 then some value
  else none

/-- The two groups that four bytes fill. -/
def embedded? (text : List Char) : Option (List Nat) := do
  let [a, b, c, d] ← (Text.pieces '.' text).mapM byte? | none
  some [a * 256 + b, c * 256 + d]

/-- A group of sixteen bits in up to four digits. -/
def group? (digits : List Char) : Option Nat :=
  if digits ≠ [] ∧ digits.length ≤ 4 then number? 16 digits else none

/-- The groups of parts between colons; in the end of an address the last part may be four bytes. -/
def groups? (atEnd : Bool) : List (List Char) → Option (List Nat)
  | [] => some []
  | [last] =>
    if atEnd && last.contains '.' then embedded? last else (group? last).map ([·])
  | part :: parts => do some ((← group? part) :: (← groups? atEnd parts))

/-- The groups of a text that may be empty. -/
def groupsOf? (atEnd : Bool) (text : List Char) : Option (List Nat) :=
  if text.isEmpty then some [] else groups? atEnd (Text.pieces ':' text)

/-- Eight groups, of which one double colon leaves out one or more that are zero. -/
def ipv6? (text : List Char) : Option (List Nat) :=
  match Text.splitFirst? "::".toList text with
  | some (before, after) => do
    let before ← groupsOf? false before
    let after ← groupsOf? true after
    let given := before.length + after.length
    if given ≤ 7 then some (before ++ List.replicate (8 - given) 0 ++ after) else none
  | none => do
    let groups ← groups? true (Text.pieces ':' text)
    if groups.length = 8 then some groups else none

/-! ## Reading -/

def bracketed? (text : List Char) : Except Fault Host :=
  match text.getLast? with
  | some ']' =>
    match ipv6? text.dropLast with
    | some groups => .ok (.ipv6 groups)
    | none => .error .invalidIpv6
  | _ => .error .invalidIpv6

/-- The host of a scheme of the web. -/
def Host.parse? (text : List Char) : Except Fault Host :=
  match text with
  | '[' :: rest => bracketed? rest
  | _ =>
    match (String.fromUTF8? ⟨(decode text).toArray⟩).bind fun s => Name.ofChars? s.toList with
    | none => .error .invalidHost
    | some name =>
      let ascii := name.ascii
      if ascii.isEmpty then .error .emptyHost
      else if endsInNumber ascii then
        match ipv4? ascii with
        | some address => .ok (.ipv4 address)
        | none => .error .invalidIpv4
      else .ok (.domain (String.ofList ascii))

/-- Characters that no host holds. -/
def forbiddenInHost : List Char :=
  [Char.ofNat 0, '\t', '\n', '\r', ' '] ++ "#/:<>?@[\\]^|".toList

/-- The host of any other scheme, empty or as it is written. -/
def Host.parseOpaque? (text : List Char) : Except Fault Host :=
  match text with
  | '[' :: rest => bracketed? rest
  | _ =>
    if text.any forbiddenInHost.contains then .error .invalidHostCharacter
    else .ok (.domain (String.ofList (encode keptAnywhere text)))

/-! ## Writing -/

/-- The bytes of an address of version 4 in decimal digits, with points between them. -/
def ipv4Text (address : Nat) : List Char :=
  List.intercalate ['.'] ([3, 2, 1, 0].map fun i => Nat.toDigits 10 (address / Nat.pow 256 i % 256))

/-- How many groups are zero from a place on. -/
def zerosFrom (groups : List Nat) (place : Nat) : Nat :=
  ((groups.drop place).takeWhile (· = 0)).length

/-- The first place from which the most groups are zero. -/
def zeroPlace (groups : List Nat) : Nat :=
  (List.range groups.length).foldl
    (fun best place => if zerosFrom groups best < zerosFrom groups place then place else best) 0

def groupsText (groups : List Nat) : List Char :=
  List.intercalate [':'] (groups.map (Nat.toDigits 16))

/-- The groups of an address of version 6 in hexadecimal digits, with colons between them. A double
colon takes the place of the longest run of two zeros or more. -/
def ipv6Text (groups : List Nat) : List Char :=
  let place := zeroPlace groups
  let count := zerosFrom groups place
  if count < 2 then groupsText groups
  else groupsText (groups.take place) ++ [':', ':'] ++ groupsText (groups.drop (place + count))

def Host.text : Host → String
  | domain name => name
  | ipv4 address => String.ofList (ipv4Text address)
  | ipv6 groups => String.ofList ('[' :: ipv6Text groups ++ [']'])

end GuidedSynthesis.Url
