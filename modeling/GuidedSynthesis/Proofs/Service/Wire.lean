import GuidedSynthesis.Proofs.Answer.Stream
import GuidedSynthesis.Proofs.Json.Record
import GuidedSynthesis.Service
/-!
What the body of an answer tells.

A service answers a generation and a repair in one of four ways: with a record of blocks, with a
record of choices, with a stream of events, or with a record of one text. For each of them there is
a relation between a body and what it tells (`Messages.Tells`, `Completions.Tells`, `Stream.Reads`,
`CodeStream.TellsRepair`), and the reader of that answer gives exactly what is told. So nothing is
taken for an answer that only looks like one, say a block with `null` for its text.

`Service.TellsCode` and `Service.TellsRepair` put them together. What the readers do with a body
that tells nothing is the same for all: they blame the answer (`Failure.BlamesAnswer`).
-/

namespace GuidedSynthesis

theorem mapError_eq_ok_iff {ε ε' α : Type} {f : ε → ε'} {x : Except ε α} {a : α} :
    x.mapError f = .ok a ↔ x = .ok a := by
  cases x with
  | ok b => constructor <;> (intro h; cases h; rfl)
  | error e => exact ⟨nofun, nofun⟩

theorem exists_of_mapError_eq_error {ε ε' α : Type} {f : ε → ε'} {x : Except ε α} {e' : ε'}
    (h : x.mapError f = .error e') : ∃ e, f e = e' := by
  cases x with
  | ok b => exact nomatch h
  | error e => exact ⟨e, Except.error.inj h⟩

/-! ## 1. Event streams -/

namespace Answer.Stream

/-- What the data of an event make of a stream: a delta has a piece of text, functions are told in
an array. -/
inductive Takes : Stream → Event → Json → Stream → Prop
  | delta {s : Stream} {value : Json} {piece : String}
      (text : value.get? "text" = some (.string piece)) :
      Takes s .delta value { s with text := s.text ++ piece }
  | functions {s : Stream} (items : List Json) :
      Takes s .functions (.array items) { s with functions := some (.array items) }

/-- What lines make of a stream: a line that announces an event has its data after it, and any other
line is passed over. -/
inductive Reads : Stream → List (List Char) → Stream → Prop
  | nil {s : Stream} : Reads s [] s
  | passed {s t : Stream} {line : List Char} {rest : List (List Char)}
      (noEvent : Event.ofLine? line = none) (more : Reads s rest t) : Reads s (line :: rest) t
  | told {s u t : Stream} {line data : List Char} {rest : List (List Char)} {event : Event}
      {value : Json} (announced : Event.ofLine? line = some event)
      (read : dataOf? data = some value) (taken : s.Takes event value u) (more : Reads u rest t) :
      Reads s (line :: data :: rest) t

theorem receive_eq_ok_iff {s t : Stream} {event : Event} {value : Json} :
    s.receive event value = .ok t ↔ s.Takes event value t := by
  constructor
  · intro h
    cases event with
    | delta =>
      simp only [receive] at h
      split at h
      · rename_i piece htext
        obtain ⟨found, hget, hstring⟩ := Option.bind_eq_some_iff.mp htext
        cases found with
        | string text =>
          cases hstring
          cases h
          exact .delta hget
        | _ => cases hstring
      · cases h
    | functions =>
      cases value with
      | array items =>
        cases h
        exact .functions items
      | _ => cases h
  · intro h
    cases h with
    | delta text =>
      simp only [receive, text, Option.bind_some, Json.string?]
    | functions items => rfl

theorem readLines_eq_ok_iff {s t : Stream} {lines : List (List Char)} :
    s.readLines lines = .ok t ↔ Reads s lines t := by
  constructor
  · intro h
    fun_induction readLines s lines with
    | case1 s =>
      cases h
      exact .nil
    | case2 s line rest noEvent ih => exact .passed noEvent (ih h)
    | case3 => exact nomatch h
    | case4 => exact nomatch h
    | case5 s line event data rest announced value read u taken ih =>
      exact .told announced read (receive_eq_ok_iff.mp taken) (ih h)
    | case6 => exact nomatch h
  · intro h
    induction h with
    | nil => rw [readLines]
    | passed noEvent _ ih => rw [readLines_of_no_event noEvent, ih]
    | told announced read taken _ ih =>
      rw [readLines_of_event announced read (receive_eq_ok_iff.mpr taken), ih]

/-- Functions that are told are told in an array. -/
theorem Reads.isArray {s t : Stream} {lines : List (List Char)} (h : Reads s lines t)
    (hs : ∀ functions, s.functions = some functions → functions.isArray = true) :
    ∀ functions, t.functions = some functions → functions.isArray = true := by
  induction h with
  | nil => exact hs
  | passed _ _ ih => exact ih hs
  | told _ _ taken _ ih =>
    refine ih ?_
    cases taken with
    | delta _ => exact hs
    | functions items =>
      intro functions hfunctions
      cases hfunctions
      rfl

end Answer.Stream

namespace Answer

theorem refusal?_eq_none_iff {body : String} :
    refusal? (Text.lines body.toList) = none ↔ ¬ IsRefusal body := by
  refine ⟨?_, refusal?_eq_none⟩
  rintro h ⟨line, report, hline, hreport, hmessage⟩
  rw [hline, refusal?, hreport, Option.bind_some, errorMessage?, Option.map_eq_none_iff] at h
  rw [h] at hmessage
  cases hmessage

theorem stream_eq_ok_iff {service body : String} {told : Stream} :
    stream service body = .ok told ↔
      ¬ IsRefusal body ∧ Stream.empty.Reads (Text.lines body.toList) told := by
  rw [← refusal?_eq_none_iff, ← Stream.readLines_eq_ok_iff, stream]
  cases refusal? (Text.lines body.toList) with
  | some message => simp
  | none => exact mapError_eq_ok_iff.trans (and_iff_right rfl).symm

end Answer

/-! ## 2. Bodies -/

open Json (Document)

/-- A body gives an array of blocks, and the first block gives the text. The others may give none,
but they are blocks. -/
def Messages.Tells (body text : String) : Prop :=
  ∃ document first rest, Document.ofChars? body.toList = some document ∧
    document.Gives "content" (.array (first :: rest)) ∧
    (∃ value, first.Gives "text" value ∧ value.Spells text) ∧
    ∀ block ∈ rest, (blockDecoder (Json.maxDepth - 2) block).isSome = true

/-- A body gives an array of choices, and the first choice gives a message that gives the text. The
others may give none, but they are choices. -/
def Completions.Tells (body text : String) : Prop :=
  ∃ document first rest, Document.ofChars? body.toList = some document ∧
    document.Gives "choices" (.array (first :: rest)) ∧
    (∃ message value, first.Gives "message" message ∧ message.Gives "content" value ∧
      value.Spells text) ∧
    ∀ choice ∈ rest, (choiceDecoder (Json.maxDepth - 2) choice).isSome = true

/-- A body gives the text of a repair. -/
def CodeStream.TellsRepair (body text : String) : Prop :=
  ∃ document value, Document.ofChars? body.toList = some document ∧
    document.Gives "repairResponse" value ∧ value.Spells text

theorem Messages.blockDecoder_eq_some_iff {depth : Nat} {block : Document} {text : String} :
    blockDecoder (depth + 1) block = some (some text) ↔
      ∃ value, block.Gives "text" value ∧ value.Spells text := by
  have hread (slot : Json.Slot) : slot.orDefault none (.nullable .text) = some (some text) ↔
      ∃ inner value, slot = .given inner value ∧
        Json.Decoder.nullable .text inner value = some (some text) :=
    Json.Slot.orDefault_eq_some_iff nofun
  refine (Json.Decoder.field_eq_some_iff hread).trans ?_
  refine exists_congr fun value => and_congr_right fun _ => ?_
  exact (Json.Decoder.nullable_eq_some_some_iff rfl).trans Json.Decoder.text_eq_some_iff

theorem Completions.messageDecoder_eq_some_iff {depth : Nat} {message : Document} {text : String} :
    messageDecoder (depth + 1) message = some (some text) ↔
      ∃ value, message.Gives "content" value ∧ value.Spells text :=
  Json.Decoder.optionalText_eq_some_iff

theorem Completions.choiceDecoder_eq_some_iff {depth : Nat} {choice : Document} {text : String} :
    choiceDecoder (depth + 2) choice = some (some text) ↔
      ∃ message value, choice.Gives "message" message ∧ message.Gives "content" value ∧
        value.Spells text := by
  have hread (slot : Json.Slot) :
      (slot.optional messageDecoder).map Option.join = some (some text) ↔
        ∃ inner message, slot = .given inner message ∧
          messageDecoder inner message = some (some text) := by
    rw [← Json.Slot.optional_eq_some_some_iff fun depth => by cases depth <;> rfl,
      Option.map_eq_some_iff]
    simp only [Option.join_eq_some_iff, exists_eq_right]
  refine (Json.Decoder.field_eq_some_iff hread).trans ?_
  simp only [messageDecoder_eq_some_iff, exists_and_left]

theorem CodeStream.repairDecoder_eq_some_iff {depth : Nat} {document : Document} {text : String} :
    repairDecoder (depth + 1) document = some (some text) ↔
      ∃ value, document.Gives "repairResponse" value ∧ value.Spells text :=
  Json.Decoder.optionalText_eq_some_iff

theorem Messages.answerText_eq_ok_iff {body text : String} :
    answerText body = .ok text ↔ Tells body text := by
  have hdecoded : answerText body = .ok text ↔
      ∃ more, Json.decode? answerDecoder body = some (some text :: more) := by
    unfold answerText
    constructor
    · intro h
      split at h
      · exact nomatch h
      · rename_i found more hdecode
        cases h
        exact ⟨more, hdecode⟩
      · exact nomatch h
    · rintro ⟨more, hdecode⟩
      rw [hdecode]
  refine hdecoded.trans (Json.decode?_listField_iff.trans ?_)
  simp only [Json.maxDepth, blockDecoder_eq_some_iff, Tells]

theorem Completions.answerText_eq_ok_iff {body text : String} :
    answerText body = .ok text ↔ Tells body text := by
  have hdecoded : answerText body = .ok text ↔
      ∃ more, Json.decode? answerDecoder body = some (some text :: more) := by
    unfold answerText
    constructor
    · intro h
      split at h
      · exact nomatch h
      · exact nomatch h
      · exact nomatch h
      · rename_i found more hdecode
        cases h
        exact ⟨more, hdecode⟩
    · rintro ⟨more, hdecode⟩
      rw [hdecode]
  refine hdecoded.trans (Json.decode?_listField_iff.trans ?_)
  simp only [Json.maxDepth, choiceDecoder_eq_some_iff, Tells]

theorem CodeStream.repairText_eq_ok_iff {body text : String} :
    repairText body = .ok text ↔ TellsRepair body text := by
  have hdecoded : repairText body = .ok text ↔
      Json.decode? repairDecoder body = some (some text) := by
    unfold repairText
    split <;> simp [*]
  simp only [hdecoded, Json.decode?_eq_some_iff]
  constructor
  · rintro ⟨document, hdocument, h⟩
    obtain ⟨value, htext⟩ := repairDecoder_eq_some_iff.mp h
    exact ⟨document, value, hdocument, htext⟩
  · rintro ⟨document, value, hdocument, htext⟩
    exact ⟨document, hdocument, repairDecoder_eq_some_iff.mpr ⟨value, htext⟩⟩

/-! ## 3. Services -/

/-- The answer of a service is blamed, but not for a text without code. -/
def Failure.BlamesAnswer (service : String) (failure : Failure) : Prop :=
  (∃ fault, failure = .answer service fault) ∨ ∃ message, failure = .rejected service message

namespace Failure.BlamesAnswer

variable {service : String} {failure : Failure}

theorem category (h : failure.BlamesAnswer service) :
    failure.category = .serviceAnswer ∨ failure.category = .rejected := by
  obtain ⟨_, rfl⟩ | ⟨_, rfl⟩ := h
  · exact .inl rfl
  · exact .inr rfl

theorem ne_missingCodeBlock (h : failure.BlamesAnswer service) (other : String) :
    failure ≠ .missingCodeBlock other := by
  obtain ⟨_, rfl⟩ | ⟨_, rfl⟩ := h <;> exact nofun

end Failure.BlamesAnswer

theorem Answer.blamesAnswer_of_stream {service body : String} {failure : Failure}
    (h : stream service body = .error failure) : failure.BlamesAnswer service := by
  simp only [stream] at h
  split at h
  · rename_i message _
    cases h
    exact .inr ⟨message, rfl⟩
  · obtain ⟨fault, rfl⟩ := exists_of_mapError_eq_error h
    exact .inl ⟨fault, rfl⟩

namespace Service

/-- What the body of an answer to a generation tells: a text and, in a stream of events only, helper
functions. -/
def TellsCode (s : Service) (body : String) (told : Answer.Stream) : Prop :=
  match s.kind with
  | .anthropic => Messages.Tells body told.text ∧ told.functions = none
  | .azureOpenai | .openai => Completions.Tells body told.text ∧ told.functions = none
  | .copilot =>
    ¬ Answer.IsRefusal body ∧ Answer.Stream.empty.Reads (Text.lines body.toList) told

/-- What the body of an answer to a repair tells: a text. -/
def TellsRepair (s : Service) (body text : String) : Prop :=
  match s.kind with
  | .anthropic => Messages.Tells body text
  | .azureOpenai | .openai => Completions.Tells body text
  | .copilot => CodeStream.TellsRepair body text

variable {s : Service} {body : String} {failure : Failure}

/-- A text that comes without helper functions. -/
def plain (s : Service) : Except AnswerFault String → Result Answer.Stream
  | .ok text => .ok ⟨text, none⟩
  | .error fault => .error (.answer s.name fault)

theorem generationText_eq (s : Service) (body : String) : s.generationText body =
    match s.backend with
    | .anthropic _ => s.plain (Messages.answerText body)
    | .azureOpenai .. | .openai _ => s.plain (Completions.answerText body)
    | .copilot _ => Answer.stream s.name body := rfl

theorem plain_eq_ok_iff {answer : Except AnswerFault String} {told : Answer.Stream} :
    s.plain answer = .ok told ↔ answer = .ok told.text ∧ told.functions = none := by
  obtain ⟨text, functions⟩ := told
  cases answer <;> simp [plain, eq_comm]

theorem blamesAnswer_of_plain {answer : Except AnswerFault String}
    (h : s.plain answer = .error failure) : failure.BlamesAnswer s.name := by
  cases answer with
  | ok text => exact nomatch h
  | error fault =>
    cases h
    exact .inl ⟨fault, rfl⟩

theorem generationText_eq_ok_iff {told : Answer.Stream} :
    s.generationText body = .ok told ↔ s.TellsCode body told := by
  rw [generationText_eq, TellsCode, kind]
  cases s.backend with
  | anthropic =>
    exact plain_eq_ok_iff.trans (and_congr_left fun _ => Messages.answerText_eq_ok_iff)
  | azureOpenai =>
    exact plain_eq_ok_iff.trans (and_congr_left fun _ => Completions.answerText_eq_ok_iff)
  | openai =>
    exact plain_eq_ok_iff.trans (and_congr_left fun _ => Completions.answerText_eq_ok_iff)
  | copilot => exact Answer.stream_eq_ok_iff

theorem repairText_eq_ok_iff {text : String} :
    s.repairText body = .ok text ↔ s.TellsRepair body text := by
  unfold repairText TellsRepair kind
  rw [mapError_eq_ok_iff]
  cases s.backend with
  | anthropic => exact Messages.answerText_eq_ok_iff
  | azureOpenai => exact Completions.answerText_eq_ok_iff
  | openai => exact Completions.answerText_eq_ok_iff
  | copilot => exact CodeStream.repairText_eq_ok_iff

theorem blamesAnswer_of_generationText (h : s.generationText body = .error failure) :
    failure.BlamesAnswer s.name := by
  rw [generationText_eq] at h
  split at h
  · exact blamesAnswer_of_plain h
  · exact blamesAnswer_of_plain h
  · exact blamesAnswer_of_plain h
  · exact Answer.blamesAnswer_of_stream h

theorem blamesAnswer_of_repairText (h : s.repairText body = .error failure) :
    failure.BlamesAnswer s.name := by
  obtain ⟨fault, rfl⟩ := exists_of_mapError_eq_error h
  exact .inl ⟨fault, rfl⟩

/-- Only the code service tells helper functions, and it tells them in an array. -/
theorem TellsCode.functions {told : Answer.Stream} (h : s.TellsCode body told) {functions : Json}
    (hfunctions : told.functions = some functions) :
    s.kind = .copilot ∧ functions.isArray = true := by
  unfold TellsCode at h
  split at h
  · exact nomatch h.2.symm.trans hfunctions
  · exact nomatch h.2.symm.trans hfunctions
  · exact nomatch h.2.symm.trans hfunctions
  · rename_i hkind
    exact ⟨hkind, h.2.isArray nofun functions hfunctions⟩

end Service

end GuidedSynthesis
