import GuidedSynthesis.Answer
import GuidedSynthesis.Proofs.Text.Lines
import GuidedSynthesis.Proofs.Json.Compact
import GuidedSynthesis.Proofs.Json.Reading
/-!
Streams that are written and read.

A stream is written as a sequence of frames (`Frame`): a header line and a line of data for an
event, or a line that announces nothing. `stream_encoded` says that reading undoes the writing: the
text is that of all pieces in their order, wherever it was cut, and the functions are those told
last.

What makes it work is that a frame is never taken for another one. A header stands on a line of its
own up to blanks, and these do not count. The data of an event is on one line, whatever is in it,
for the line breaks in its strings are escaped (`Json.uncontrolled_compact`); and that line is taken
with the header before it, so that it is never asked whether it looks like a header itself.

The proof first cuts the text into the lines of its frames (`lines_encoded`) and then takes one
frame after the other (`readLines_frame`), in front of any lines and with any stream received so
far.
-/

namespace GuidedSynthesis.Answer

open Text (LineEnd)

/-! ## 1. Frames -/

/-- The data of an event: an object that has a piece of text, or an array of functions. -/
inductive Payload where
  | delta (fields : List (String × Json)) (piece : String)
      (text : fields.lookup "text" = some (.string piece))
  | functions (items : List Json)

namespace Payload

def event : Payload → Event
  | delta .. => .delta
  | functions _ => .functions

def data : Payload → Json
  | delta fields .. => .object fields
  | functions items => .array items

end Payload

/-- How a header line goes on after the header: with blanks that do not end it, and with its end. -/
structure HeaderEnd where
  blanks : List Char
  blank : ∀ c ∈ blanks, Text.isBlank c = true
  oneLine : '\n' ∉ blanks
  ending : LineEnd

/-- Nothing but the end of the line. -/
def HeaderEnd.plain (ending : LineEnd) : HeaderEnd := ⟨[], nofun, by decide, ending⟩

/-- What a stream is made of: an event, of which the header is on one line and the data on the next
one, or a line without a header, which is passed over. -/
inductive Frame where
  | told (headerEnd : HeaderEnd) (payload : Payload) (ending : LineEnd)
  | passed (line : List Char) (oneLine : '\n' ∉ line)
      (noHeader : ∀ event : Event, Text.trimEnd line ≠ event.header) (ending : LineEnd)

namespace Frame

/-- The frame as it is written. -/
def encode : Frame → List Char
  | told headerEnd payload ending =>
    payload.event.header ++ headerEnd.blanks ++ headerEnd.ending.text ++
      (dataMark ++ payload.data.compact ++ ending.text)
  | passed line _ _ ending => line ++ ending.text

/-- The lines of the frame as they are read. -/
def lines : Frame → List (List Char)
  | told headerEnd payload _ =>
    [headerEnd.ending.read (payload.event.header ++ headerEnd.blanks),
      dataMark ++ payload.data.compact]
  | passed line _ _ ending => [ending.read line]

def payload? : Frame → Option Payload
  | told _ payload _ => some payload
  | passed .. => none

/-- The piece of text that the frame brings. -/
def piece? : Frame → Option String
  | told _ (.delta _ piece _) _ => some piece
  | _ => none

/-- The functions that the frame tells. -/
def functions? : Frame → Option Json
  | told _ (.functions items) _ => some (.array items)
  | _ => none

end Frame

/-- The frames one after the other, as they are written. -/
def encoded (frames : List Frame) : String := String.ofList (frames.flatMap Frame.encode)

/-- The data of every frame is read back from its compact text. -/
def Legible (frames : List Frame) : Prop :=
  ∀ frame ∈ frames, ∀ payload ∈ frame.payload?, payload.data.ReadsBack

theorem legible_nil : Legible [] := fun _ hframe => nomatch hframe

theorem legible_told {payload : Payload} {frames : List Frame} (h : payload.data.ReadsBack)
    (hframes : Legible frames) {headerEnd : HeaderEnd} {ending : LineEnd} :
    Legible (.told headerEnd payload ending :: frames) := by
  refine List.forall_mem_cons.mpr ⟨fun read hread => ?_, hframes⟩
  obtain rfl := Option.some.inj hread
  exact h

theorem legible_passed {frames : List Frame} (hframes : Legible frames) {line : List Char}
    {oneLine : '\n' ∉ line} {noHeader : ∀ event : Event, Text.trimEnd line ≠ event.header}
    {ending : LineEnd} : Legible (.passed line oneLine noHeader ending :: frames) :=
  List.forall_mem_cons.mpr ⟨fun _ hpayload => (nomatch hpayload), hframes⟩

/-- A body of one line that holds a JSON object with a message of an error. -/
def IsRefusal (body : String) : Prop :=
  ∃ line report, Text.lines body.toList = [line] ∧ Json.parse? line = some report ∧
    (report.get? "error_message").isSome

/-! ## 2. Lines -/

namespace Event

theorem trimEnd_header (event : Event) : Text.trimEnd event.header = event.header := by
  cases event <;> decide

theorem not_mem_header (event : Event) : '\n' ∉ event.header := by
  cases event <;> decide

theorem ofLine?_of_trimEnd {event : Event} {line : List Char}
    (h : Text.trimEnd line = event.header) : ofLine? line = some event := by
  have hne : functions.header ≠ delta.header := by decide
  cases event with
  | delta => simp only [ofLine?, h, if_true]
  | functions => simp only [ofLine?, h, if_neg hne, if_true]

theorem ofLine?_eq_none {line : List Char} (h : ∀ event : Event, Text.trimEnd line ≠ event.header) :
    ofLine? line = none := by
  simp only [ofLine?, if_neg (h _)]

end Event

namespace HeaderEnd

/-- The line of a header announces its event. -/
theorem ofLine?_read (headerEnd : HeaderEnd) (event : Event) :
    Event.ofLine? (headerEnd.ending.read (event.header ++ headerEnd.blanks)) = some event :=
  Event.ofLine?_of_trimEnd <| by
    rw [Text.trimEnd_read, Text.trimEnd_append headerEnd.blank, event.trimEnd_header]

theorem not_mem_line (headerEnd : HeaderEnd) (event : Event) :
    '\n' ∉ event.header ++ headerEnd.blanks := by
  rw [List.mem_append, not_or]
  exact ⟨event.not_mem_header, headerEnd.oneLine⟩

end HeaderEnd

theorem uncontrolled_dataLine (j : Json) : Uncontrolled (dataMark ++ j.compact) :=
  Uncontrolled.append_iff.mpr ⟨by decide, j.uncontrolled_compact⟩

theorem dataOf?_dataLine {j : Json} (h : j.ReadsBack) :
    dataOf? (dataMark ++ j.compact) = some j := by
  rw [dataOf?, dataText, Text.afterPrefix?_append, Option.getD_some]
  exact h

/-- A frame is cut into its own lines, whatever follows. -/
theorem lines_encode (frame : Frame) (rest : List Char) :
    Text.lines (frame.encode ++ rest) = frame.lines ++ Text.lines rest := by
  cases frame with
  | told headerEnd payload ending =>
    have hdata := uncontrolled_dataLine payload.data
    have hfeed : '\n' ∉ dataMark ++ payload.data.compact := hdata.not_mem (by decide)
    have hreturn : '\r' ∉ dataMark ++ payload.data.compact := hdata.not_mem (by decide)
    rw [Frame.encode, List.append_assoc, Text.lines_ended (headerEnd.not_mem_line _),
      Text.lines_ended hfeed, Text.read_of_not_mem hreturn]
    rfl
  | passed line oneLine _ ending =>
    rw [Frame.encode, Text.lines_ended oneLine]
    rfl

theorem lines_encoded (frames : List Frame) :
    Text.lines (encoded frames).toList = frames.flatMap Frame.lines := by
  rw [encoded, String.toList_ofList]
  induction frames with
  | nil => rfl
  | cons frame frames ih => rw [List.flatMap_cons, lines_encode, ih, List.flatMap_cons]

/-! ## 3. Frame by frame -/

namespace Stream

theorem readLines_of_no_event {line : List Char} (h : Event.ofLine? line = none) (s : Stream)
    (rest : List (List Char)) : s.readLines (line :: rest) = s.readLines rest := by
  rw [readLines.eq_def]
  simp only [h]

theorem readLines_of_event {s t : Stream} {event : Event} {line data : List Char} {value : Json}
    (hevent : Event.ofLine? line = some event) (hdata : dataOf? data = some value)
    (hreceive : s.receive event value = .ok t) (rest : List (List Char)) :
    s.readLines (line :: data :: rest) = t.readLines rest := by
  rw [readLines.eq_def]
  simp only [hevent, hdata, hreceive]

/-- The stream after a frame. -/
def after (s : Stream) (frame : Frame) : Stream :=
  ⟨s.text ++ frame.piece?.getD "", frame.functions?.or s.functions⟩

theorem receive_payload (s : Stream) (headerEnd : HeaderEnd) (payload : Payload)
    (ending : LineEnd) :
    s.receive payload.event payload.data = .ok (s.after (.told headerEnd payload ending)) := by
  cases payload with
  | delta fields piece text =>
    have hpiece : ((Json.object fields).get? "text").bind Json.string? = some piece := by
      rw [Json.get?, text]
      rfl
    simp only [Payload.event, Payload.data, receive, hpiece]
    rfl
  | functions items =>
    simp only [Payload.event, Payload.data, receive, Json.isArray, if_true, after, Frame.piece?,
      Frame.functions?, Option.getD_none, String.append_empty, Option.some_or]

/-- A frame is taken by itself, whatever was received before and whatever lines follow. -/
theorem readLines_frame (s : Stream) {frame : Frame} (h : Legible [frame])
    (rest : List (List Char)) :
    s.readLines (frame.lines ++ rest) = (s.after frame).readLines rest := by
  cases frame with
  | told headerEnd payload ending =>
    have hlegible : payload.data.ReadsBack := h _ List.mem_cons_self payload rfl
    exact readLines_of_event (headerEnd.ofLine?_read _) (dataOf?_dataLine hlegible)
      (s.receive_payload headerEnd payload ending) rest
  | passed line oneLine noHeader ending =>
    have hpassed : Event.ofLine? (ending.read line) = none := Event.ofLine?_eq_none fun event => by
      rw [Text.trimEnd_read]
      exact noHeader event
    have hafter : s.after (.passed line oneLine noHeader ending) = s := by
      simp only [after, Frame.piece?, Frame.functions?, Option.getD_none, String.append_empty,
        Option.none_or]
    rw [Frame.lines, List.singleton_append, readLines_of_no_event hpassed, hafter]

theorem readLines_frames (s : Stream) {frames : List Frame} (h : Legible frames) :
    s.readLines (frames.flatMap Frame.lines) = .ok (frames.foldl after s) := by
  induction frames generalizing s with
  | nil => rfl
  | cons frame frames ih =>
    obtain ⟨hframe, hframes⟩ := List.forall_mem_cons.mp h
    have hone : Legible [frame] := List.forall_mem_singleton.mpr hframe
    rw [List.flatMap_cons, readLines_frame s hone, ih _ hframes, List.foldl_cons]

/-- What is received adds up: the pieces of text one after the other. -/
theorem text_foldl_after (s : Stream) (frames : List Frame) :
    (frames.foldl after s).text = s.text ++ String.join (frames.filterMap Frame.piece?) := by
  induction frames generalizing s with
  | nil => exact String.append_empty.symm
  | cons frame frames ih =>
    rw [List.foldl_cons, ih, after, List.filterMap_cons]
    cases frame.piece? with
    | none => rw [Option.getD_none, String.append_empty]
    | some piece => rw [Option.getD_some, String.join_cons, String.append_assoc]

/-- Functions take the place of those told before. -/
theorem functions_foldl_after (s : Stream) (frames : List Frame) :
    (frames.foldl after s).functions =
      (frames.filterMap Frame.functions?).getLast?.or s.functions := by
  induction frames generalizing s with
  | nil => rfl
  | cons frame frames ih =>
    rw [List.foldl_cons, ih, after, List.filterMap_cons]
    cases frame.functions? with
    | none => rw [Option.none_or]
    | some functions =>
      rw [List.getLast?_cons, Option.some_or]
      cases (frames.filterMap Frame.functions?).getLast? <;> rfl

end Stream

/-! ## 4. Streams -/

theorem refusal?_eq_none {body : String} (h : ¬ IsRefusal body) :
    refusal? (Text.lines body.toList) = none := by
  rw [refusal?.eq_def]
  split
  · rename_i line hline
    rw [Option.bind_eq_none_iff]
    intro report hreport
    rw [errorMessage?, Option.map_eq_none_iff, ← Option.not_isSome_iff_eq_none]
    exact fun hmessage => h ⟨line, report, hline, hreport, hmessage⟩
  · rfl

/-- A stream with an event has two lines at least and so is no refusal. -/
theorem not_isRefusal_of_told {frames : List Frame} {frame : Frame} (hframe : frame ∈ frames)
    (htold : frame.payload?.isSome) : ¬ IsRefusal (encoded frames) := by
  rintro ⟨line, report, hlines, -⟩
  obtain ⟨earlier, later, rfl⟩ := List.append_of_mem hframe
  have hone := congrArg List.length hlines
  rw [lines_encoded, List.flatMap_append, List.flatMap_cons, List.length_append,
    List.length_append, List.length_singleton] at hone
  cases frame with
  | told headerEnd payload ending =>
    rw [Frame.lines, List.length_cons, List.length_singleton] at hone
    omega
  | passed line oneLine noHeader ending => exact nomatch htold

/-- A stream that is written is read again, whatever its frames are. -/
theorem stream_of_legible {frames : List Frame} (hlegible : Legible frames)
    (hrefusal : ¬ IsRefusal (encoded frames)) (service : String) :
    stream service (encoded frames) = .ok ⟨String.join (frames.filterMap Frame.piece?),
      (frames.filterMap Frame.functions?).getLast?⟩ := by
  have hafter : frames.foldl Stream.after Stream.empty =
      ⟨String.join (frames.filterMap Frame.piece?),
        (frames.filterMap Frame.functions?).getLast?⟩ := by
    rw [Stream.mk.injEq, Stream.text_foldl_after, Stream.functions_foldl_after]
    exact ⟨String.empty_append, Option.or_none⟩
  simp only [stream, refusal?_eq_none hrefusal]
  rw [lines_encoded, Stream.readLines_frames Stream.empty hlegible, hafter]
  rfl

/-- Reading a stream undoes writing it. The data of a frame may be whatever is read back from its
own compact text, and so is every value of whole numbers of 64 bits and of fields in ascending
order. The text of the stream is that of all pieces together, so that it does not matter where it
was cut. -/
theorem stream_encoded :
    (∀ j : Json, j.Portable Json.maxDepth → j.ReadsBack) ∧
    (∀ (service : String) (frames : List Frame), Legible frames → ¬ IsRefusal (encoded frames) →
      stream service (encoded frames) = .ok ⟨String.join (frames.filterMap Frame.piece?),
        (frames.filterMap Frame.functions?).getLast?⟩) ∧
    ∀ (service : String) (frames others : List Frame), Legible frames → Legible others →
      ¬ IsRefusal (encoded frames) → ¬ IsRefusal (encoded others) →
      String.join (frames.filterMap Frame.piece?) = String.join (others.filterMap Frame.piece?) →
      ∃ s t, stream service (encoded frames) = .ok s ∧ stream service (encoded others) = .ok t ∧
        s.text = t.text := by
  refine ⟨fun j hj => Json.readsBack_of_portable hj, ?_, ?_⟩
  · intro service frames hlegible hrefusal
    exact stream_of_legible hlegible hrefusal service
  · intro service frames others hframes hothers hrefusal hrefusals hsame
    exact ⟨_, _, stream_of_legible hframes hrefusal service,
      stream_of_legible hothers hrefusals service, hsame⟩

/-- A stream of which the data look like headers, with blanks after a header and both ends of lines,
with a line that is a comment and with functions that are told twice. -/
def lookAlikes : List Frame :=
  [.told ⟨[Char.ofNat 0xa0, '\r'], List.all_eq_true.mp rfl, by decide, .feed⟩
      (.delta [("index", .ofNat 0), ("text", .string "```ballerina\nevent: functions\r\n")] _ rfl)
      .returnFeed,
    .passed ": event: functions".toList (by decide) (by intro event; cases event <;> decide) .feed,
    .told ⟨[], nofun, by decide, .returnFeed⟩ (.functions []) .feed,
    .told ⟨[], nofun, by decide, .feed⟩ (.delta [("text", .string "data: \"x\"\n```")] _ rfl)
      .feed,
    .told ⟨[' '], List.all_eq_true.mp rfl, by decide, .feed⟩
      (.functions [.object [("name", .string "f")]]) .returnFeed]

/-- The text of `lookAlikes` in one piece. -/
def uncut : List Frame :=
  [.told ⟨[], nofun, by decide, .feed⟩
    (.delta [("text", .string "```ballerina\nevent: functions\r\ndata: \"x\"\n```")] _ rfl) .feed]

theorem stream_encoded_of_lookAlikes :
    Legible lookAlikes ∧ Legible uncut ∧ ¬ IsRefusal (encoded lookAlikes) ∧
      ¬ IsRefusal (encoded uncut) ∧
      stream "copilot" (encoded lookAlikes) =
        .ok ⟨"```ballerina\nevent: functions\r\ndata: \"x\"\n```",
          some (.array [.object [("name", .string "f")]])⟩ ∧
      ∃ s t, stream "copilot" (encoded lookAlikes) = .ok s ∧
        stream "copilot" (encoded uncut) = .ok t ∧ s.text = t.text := by
  obtain ⟨hportable, hstream, hcut⟩ := stream_encoded
  have hindex : (Json.ofNat 0).Portable 126 := .whole ⟨by decide, by decide⟩
  have hkeys : ["index", "text"].Pairwise (· < ·) := by decide
  have hnumbered (piece : String) :
      (Json.object [("index", .ofNat 0), ("text", .string piece)]).Portable 127 :=
    .object hkeys (List.forall_mem_cons.mpr ⟨hindex, List.forall_mem_singleton.mpr (.string _)⟩)
  have hpiece (piece : String) : (Json.object [("text", .string piece)]).Portable 127 :=
    .object (List.pairwise_singleton _ _) (List.forall_mem_singleton.mpr (.string _))
  have hnone : (Json.array []).Portable 127 := .array fun _ hitem => nomatch hitem
  have hname : (Json.object [("name", .string "f")]).Portable 126 :=
    .object (List.pairwise_singleton _ _) (List.forall_mem_singleton.mpr (.string _))
  have hlook : Legible lookAlikes := by
    refine legible_told ?_ (legible_passed (legible_told ?_ (legible_told ?_ (legible_told ?_
      legible_nil))))
    · exact hportable _ (hnumbered _)
    · exact hportable _ hnone
    · exact hportable _ (hpiece _)
    · exact hportable _ (.array (List.forall_mem_singleton.mpr hname))
  have huncut : Legible uncut := by
    refine legible_told ?_ legible_nil
    exact hportable _ (hpiece _)
  have hrefusal : ¬ IsRefusal (encoded lookAlikes) := not_isRefusal_of_told List.mem_cons_self rfl
  have hrefusals : ¬ IsRefusal (encoded uncut) := not_isRefusal_of_told List.mem_cons_self rfl
  exact ⟨hlook, huncut, hrefusal, hrefusals, hstream _ _ hlook hrefusal,
    hcut _ _ _ hlook huncut hrefusal hrefusals rfl⟩

end GuidedSynthesis.Answer
