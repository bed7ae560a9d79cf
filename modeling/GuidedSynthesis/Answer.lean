import GuidedSynthesis.Failure
import GuidedSynthesis.Json.Document
import GuidedSynthesis.Json.Printer
import GuidedSynthesis.Text.Blank
import GuidedSynthesis.Text.Lines
import GuidedSynthesis.Text.Search
/-!
What a model service answers: prose around a fenced block of code, possibly cut into a stream of
events.

The code lies between the first opening fence and the last closing fence after it. A stream is a
sequence of lines; a header line announces an event and the line after it carries the event's data.
Lines that are no header are passed over.
-/

namespace GuidedSynthesis

namespace Answer

/-! ## Fenced code -/

def openingFence : List Char := "```ballerina".toList

def closingFence : List Char := "```".toList

/-- The text between the first opening fence and the last closing fence after it, trimmed. -/
def block? (text : List Char) : Option (List Char) := do
  let (_, rest) ← Text.splitFirst? openingFence text
  let (code, _) ← Text.splitLast? closingFence rest
  some (Text.trim code)

/-- The fenced code of an answer. -/
def code? (text : String) : Option String := (block? text.toList).map String.ofList

/-- The fenced code of an answer that has to have one. -/
def requireCode (service text : String) : Result String :=
  match code? text with
  | some code => .ok code
  | none => .error (.missingCodeBlock service)

/-! ## Event streams -/

inductive Event where
  /-- A further piece of the answer's text. -/
  | delta
  /-- The descriptions of helper functions. -/
  | functions
  deriving DecidableEq, Repr

namespace Event

def header : Event → List Char
  | delta => "event: content_block_delta".toList
  | functions => "event: functions".toList

/-- The event that a line announces; blanks may follow the header. -/
def ofLine? (line : List Char) : Option Event :=
  let line := Text.trimEnd line
  if line = delta.header then some delta
  else if line = functions.header then some functions
  else none

end Event

/-- The text received so far, and the last descriptions of functions. -/
structure Stream where
  text : String
  functions : Option Json
  deriving Repr

def dataMark : List Char := "data: ".toList

/-- The text of the data of a line, which has a mark before it or none. -/
def dataText (line : List Char) : List Char := (Text.afterPrefix? dataMark line).getD line

/-- The data of a line. -/
def dataOf? (line : List Char) : Option Json := Json.parse? (dataText line)

namespace Stream

def empty : Stream := ⟨"", none⟩

/-- Takes in the data of one event. -/
def receive (s : Stream) : Event → Json → Except AnswerFault Stream
  | .delta, data =>
    match (data.get? "text").bind Json.string? with
    | some piece => .ok { s with text := s.text ++ piece }
    | none => .error .deltaWithoutText
  | .functions, data =>
    if data.isArray then .ok { s with functions := some data } else .error .functionsNotArray

/-- Takes in the events of the lines. -/
def readLines (s : Stream) : List (List Char) → Except AnswerFault Stream
  | [] => .ok s
  | line :: rest =>
    match Event.ofLine? line, rest with
    | none, rest => s.readLines rest
    | some _, [] => .error .missingData
    | some event, line :: rest =>
      match dataOf? line with
      | none => .error (.undecodableData (String.ofList (dataText line)))
      | some data =>
        match s.receive event data with
        | .ok s => s.readLines rest
        | .error fault => .error fault

end Stream

/-- The message of a JSON object that reports an error: the message's text, or the JSON text of a
message that is no string. -/
def errorMessage? (j : Json) : Option String :=
  (j.get? "error_message").map fun message => message.string?.getD message.render

/-- The message of a body that is one line reporting an error. -/
def refusal? : List (List Char) → Option String
  | [line] => (Json.parse? line).bind errorMessage?
  | _ => none

/-- The stream in the body of an answer. -/
def stream (service body : String) : Result Stream :=
  let lines := Text.lines body.toList
  match refusal? lines with
  | some message => .error (.rejected service message)
  | none => (Stream.empty.readLines lines).mapError (.answer service)

end Answer

end GuidedSynthesis
