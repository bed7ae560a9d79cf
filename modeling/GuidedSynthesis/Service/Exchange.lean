import GuidedSynthesis.Failure
import GuidedSynthesis.Json.Printer
import GuidedSynthesis.Url
/-!
One exchange with a model service: a JSON value is posted and a reply comes back, or none does.

What cannot be sent is not sent: `Post.exchange` leaves the record of what was sent as it is when
the URL names no host of the web or a header has a control character in it.
-/

namespace GuidedSynthesis

/-- Whether there is a client that waits so many milliseconds for an answer or, if not, why. -/
abbrev Clients := Nat → Except String Unit

namespace Clients

/-- There is a client for every time to wait. -/
def all : Clients := fun _ => .ok ()

/-- Refuses a time to wait for which there is no client. -/
def check (clients : Clients) (timeoutMillis : Nat) : Result Unit :=
  (clients timeoutMillis).mapError fun reason => .internal (.noClient reason)

end Clients

/-- What is put on the wire: to whom, path and query, the headers that matter, the text. -/
structure Sent where
  address : Url.Address
  target : String
  headers : List (String × String)
  body : String
  deriving DecidableEq, Repr

inductive Reply where
  | answered (status : Nat) (body : String)
  /-- Nothing until the time to wait is over. -/
  | silence
  /-- There is no connection, or it is closed without an answer. -/
  | closed
  deriving DecidableEq, Repr

/-- What is replied to a request, after those sent before it. -/
abbrev Network := List Sent → Sent → Reply

namespace Reply

def isSuccess (status : Nat) : Bool := 200 ≤ status && status < 300

/-- Does a status come with an answer? One below 200 announces an answer that is still to come, but
for 101, with which the answer ends at once; and a status has three digits. -/
def isFinal (status : Nat) : Bool := status = 101 || (200 ≤ status && status ≤ 999)

/-- The text of an answer. Some answers have none, and a byte-order mark is no part of it. -/
def text (status : Nat) (body : String) : String :=
  if status = 101 ∨ status = 204 ∨ status = 304 then ""
  else
    match body.toList with
    | c :: rest => if c.toNat = 0xfeff then String.ofList rest else body
    | [] => body

/-- The status and the text of the answer. An announcement without the answer is no answer. -/
def answer (timeoutMillis : Nat) : Reply → Result (Nat × String)
  | answered status body =>
    if isFinal status then .ok (status, text status body)
    else .error (.connection .notAnswered)
  | silence => .error (.timeout timeoutMillis)
  | closed => .error (.connection .notAnswered)

/-- The text of a successful answer; any other answer is a rejection. -/
def content (service : String) (timeoutMillis : Nat) (r : Reply) : Result String := do
  let (status, text) ← r.answer timeoutMillis
  if isSuccess status then .ok text
  else
    .error (.rejected service ("HTTP request failed with status code " ++
      String.ofList (Decimal.digitsOf status) ++ " and body: " ++ text))

end Reply

/-- A JSON value to be posted. -/
structure Post where
  url : String
  headers : List (String × String)
  body : Json
  deriving Repr

namespace Post

def contentType : String × String := ("content-type", "application/json")

def bearer (token : String) : String × String := ("authorization", "Bearer " ++ token)

/-- A header holds no control character but the tab. -/
def isHeaderValue (value : String) : Bool :=
  value.toList.all fun c => c = '\t' || (0x20 ≤ c.toNat && c.toNat ≠ 0x7f)

/-- The request that is sent, if it can be. -/
def sent? (p : Post) : Option Sent := do
  let url ← (Url.parse? p.url).toOption
  let address ← url.address?
  if url.size address ≤ Url.longest ∧ p.headers.all fun header => isHeaderValue header.2 then
    some ⟨address, url.target, p.headers, p.body.render⟩
  else none

/-- Sends the request and waits for the text of the answer; also all that has been sent then. -/
def exchange (p : Post) (service : String) (timeoutMillis : Nat) (network : Network)
    (sent : List Sent) : Result String × List Sent :=
  match p.sent? with
  | none => (.error (.connection .notBuilt), sent)
  | some request => ((network sent request).content service timeoutMillis, sent ++ [request])

end Post

/-- A URL without slashes at its end. -/
def withoutTrailingSlashes (url : String) : String :=
  String.ofList (url.toList.reverse.dropWhile (· = '/')).reverse

end GuidedSynthesis
