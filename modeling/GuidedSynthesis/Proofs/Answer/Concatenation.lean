import GuidedSynthesis.Proofs.Service.Wire
/-!
Streams one after the other.

A stream of events may be cut at the end of any line, as long as no header is parted from its data.
Two bodies of which the first one has no unfinished line are read like the streams that they hold,
one after the other: the text is that of both, and the functions are those told last. A fault in the
first body is the fault of both, but for a header at its end that has no data yet, and for the
report of an error, which has to be alone (`stream_append`).

## How the proof goes

The lines of the two bodies are the lines of the first and those of the second
(`Text.lines_append`). What the first lines make of the empty stream, the next ones go on with
(`Stream.Reads.append`); and they add the same to it as to an empty one (`Stream.Reads.after`). A
report is one line, so it is not made by putting bodies together: if both have lines, there are two.
-/

namespace GuidedSynthesis.Answer

namespace Stream

/-! ## 1. Lines that are read -/

/-- The stream received after another one. -/
def followedBy (s t : Stream) : Stream := ⟨s.text ++ t.text, t.functions.or s.functions⟩

theorem followedBy_empty (s : Stream) : s.followedBy empty = s := by
  rw [followedBy, empty, String.append_empty, Option.none_or]

theorem Reads.append {s t u : Stream} {lines more : List (List Char)} (h : Reads s lines t)
    (hmore : Reads t more u) : Reads s (lines ++ more) u := by
  induction h with
  | nil => exact hmore
  | passed noEvent _ ih => exact .passed noEvent (ih hmore)
  | told announced read taken _ ih => exact .told announced read taken (ih hmore)

theorem Takes.after {s t : Stream} {event : Event} {value : Json} (h : s.Takes event value t)
    (earlier : Stream) : (earlier.followedBy s).Takes event value (earlier.followedBy t) := by
  cases h with
  | delta text =>
    rw [followedBy, followedBy, ← String.append_assoc]
    exact .delta text
  | functions items => exact .functions items

/-- What has been received before does not matter to what is received. -/
theorem Reads.after {s t : Stream} {lines : List (List Char)} (h : Reads s lines t)
    (earlier : Stream) : Reads (earlier.followedBy s) lines (earlier.followedBy t) := by
  induction h with
  | nil => exact .nil
  | passed noEvent _ ih => exact .passed noEvent ih
  | told announced read taken _ ih => exact .told announced read (taken.after earlier) ih

/-! ## 2. Lines that are not read -/

/-- A fault is that of the lines before it, unless these break off after a header. -/
theorem readLines_append_of_error {s : Stream} {lines : List (List Char)} {fault : AnswerFault}
    (h : s.readLines lines = .error fault) (hdata : fault ≠ .missingData)
    (more : List (List Char)) : s.readLines (lines ++ more) = .error fault := by
  fun_induction readLines s lines with
  | case1 => cases h
  | case2 s line rest noEvent ih =>
    rw [List.cons_append, readLines_of_no_event noEvent]
    exact ih h
  | case3 =>
    cases h
    exact absurd rfl hdata
  | case4 s line event data rest announced undecoded =>
    cases h
    rw [List.cons_append, List.cons_append, readLines.eq_def]
    simp only [announced, undecoded]
  | case5 s line event data rest announced value read u taken ih =>
    rw [List.cons_append, List.cons_append, readLines_of_event announced read taken]
    exact ih h
  | case6 s line event data rest announced value read refused taken =>
    cases h
    rw [List.cons_append, List.cons_append, readLines.eq_def]
    simp only [announced, read, taken]

/-- One line is no fault but for a header without data. -/
theorem two_le_length_of_error {s : Stream} {lines : List (List Char)} {fault : AnswerFault}
    (h : s.readLines lines = .error fault) (hdata : fault ≠ .missingData) : 2 ≤ lines.length := by
  match lines with
  | [] => exact nomatch h
  | [line] =>
    rw [readLines.eq_def] at h
    cases hevent : Event.ofLine? line with
    | none =>
      simp only [hevent] at h
      exact nomatch h
    | some event =>
      simp only [hevent] at h
      cases h
      exact absurd rfl hdata
  | _ :: _ :: rest => exact Nat.le_add_left 2 rest.length

end Stream

/-! ## 3. Bodies -/

theorem eq_empty_of_lines_eq_nil {body : String} (h : Text.lines body.toList = []) : body = "" := by
  rw [← String.toList_inj, (Text.linesFrom_eq_nil h).2]
  rfl

/-- A report of an error is alone. -/
theorem isRefusal_append {earlier later : String} (hline : Text.EndsLine earlier.toList)
    (h : IsRefusal (earlier ++ later)) :
    earlier = "" ∧ IsRefusal later ∨ later = "" ∧ IsRefusal earlier := by
  obtain ⟨line, report, hlines, hreport⟩ := id h
  rw [String.toList_append, Text.lines_append hline, List.append_eq_singleton_iff] at hlines
  obtain ⟨hnone, -⟩ | ⟨-, hnone⟩ := hlines
  · obtain rfl := eq_empty_of_lines_eq_nil hnone
    rw [String.empty_append] at h
    exact .inl ⟨rfl, h⟩
  · obtain rfl := eq_empty_of_lines_eq_nil hnone
    rw [String.append_empty] at h
    exact .inr ⟨rfl, h⟩

/-- Two bodies, of which the first one has no unfinished line, are read one after the other. If both
are read, so are they together, with both texts and with the functions told last. If the first one
has a fault, so have they together, unless its last line is a header of which the data may follow,
or unless it is a report of an error. -/
theorem stream_append (service : String) {earlier : String} (hline : Text.EndsLine earlier.toList)
    (later : String) :
    (∀ s t, stream service earlier = .ok s → stream service later = .ok t →
      stream service (earlier ++ later) = .ok ⟨s.text ++ t.text, t.functions.or s.functions⟩) ∧
    ∀ failure, stream service earlier = .error failure →
      (∀ message, failure ≠ .rejected service message) →
      failure ≠ .answer service .missingData →
      stream service (earlier ++ later) = .error failure := by
  have hlines : Text.lines (earlier ++ later).toList =
      Text.lines earlier.toList ++ Text.lines later.toList := by
    rw [String.toList_append, Text.lines_append hline]
  refine ⟨?_, ?_⟩
  · intro s t hs ht
    obtain ⟨hearlier, hreads⟩ := stream_eq_ok_iff.mp hs
    obtain ⟨hlater, hreadsLater⟩ := stream_eq_ok_iff.mp ht
    have hnext := hreadsLater.after s
    rw [Stream.followedBy_empty] at hnext
    refine stream_eq_ok_iff.mpr ⟨fun hrefusal => ?_, ?_⟩
    · obtain ⟨-, hrefusal⟩ | ⟨-, hrefusal⟩ := isRefusal_append hline hrefusal
      · exact hlater hrefusal
      · exact hearlier hrefusal
    · rw [hlines]
      exact hreads.append hnext
  · intro failure hfailed hrejected hdata
    simp only [stream] at hfailed
    split at hfailed
    · cases hfailed
      exact absurd rfl (hrejected _)
    · cases hread : Stream.empty.readLines (Text.lines earlier.toList) with
      | ok s =>
        rw [hread] at hfailed
        cases hfailed
      | error fault =>
        rw [hread] at hfailed
        cases hfailed
        have hfault : fault ≠ .missingData := fun h => hdata (congrArg (Failure.answer service) h)
        -- A fault takes two lines, and a report of an error is one line alone.
        have hlong := Stream.two_le_length_of_error hread hfault
        have hnone : refusal? (Text.lines earlier.toList ++ Text.lines later.toList) = none := by
          rw [refusal?.eq_def]
          split
          · rename_i hone
            have hlength := congrArg List.length hone
            rw [List.length_append, List.length_singleton] at hlength
            omega
          · rfl
        simp only [stream, hlines, hnone, Stream.readLines_append_of_error hread hfault]
        rfl

/-! A stream in two parts, of which the first one tells functions, and a body with a fault. -/

/-- A frame with plain ends. -/
def plainFrame (payload : Payload) : Frame := .told (.plain .feed) payload .feed

def opening : List Frame :=
  [plainFrame (.functions [.string "f"]), plainFrame (.delta [("text", .string "a")] "a" rfl)]

def closing : List Frame := [plainFrame (.delta [("text", .string "b")] "b" rfl)]

/-- Tells functions, but not in an array. -/
def broken : String := "event: functions\nnull\n"

theorem legible_delta (piece : String) {frames : List Frame} (h : Legible frames) :
    Legible (plainFrame (.delta [("text", .string piece)] piece rfl) :: frames) := by
  have hportable : (Json.object [("text", .string piece)]).Portable 127 :=
    .object (List.pairwise_singleton _ _) (List.forall_mem_singleton.mpr (.string piece))
  refine legible_told ?_ h
  exact Json.readsBack_of_portable hportable

theorem stream_append_of_parts :
    Text.EndsLine (encoded opening).toList ∧
    stream "copilot" (encoded opening) = .ok ⟨"a", some (.array [.string "f"])⟩ ∧
    stream "copilot" (encoded closing) = .ok ⟨"b", none⟩ ∧
    stream "copilot" (encoded opening ++ encoded closing) =
      .ok ⟨"ab", some (.array [.string "f"])⟩ ∧
    Text.EndsLine broken.toList ∧
    stream "copilot" broken = .error (.answer "copilot" .functionsNotArray) ∧
    stream "copilot" (broken ++ encoded closing) =
      .error (.answer "copilot" .functionsNotArray) := by
  have hfunctions : (Json.array [.string "f"]).Portable 127 :=
    .array (List.forall_mem_singleton.mpr (.string "f"))
  have hlegible : Legible opening := by
    refine legible_told ?_ (legible_delta "a" legible_nil)
    exact Json.readsBack_of_portable hfunctions
  have hopening := stream_of_legible hlegible (not_isRefusal_of_told List.mem_cons_self rfl)
    "copilot"
  have hclosing := stream_of_legible (legible_delta "b" legible_nil)
    (not_isRefusal_of_told List.mem_cons_self rfl) "copilot"
  have hfault : (match stream "copilot" broken with
      | .ok _ => none
      | .error failure => some failure) = some (.answer "copilot" .functionsNotArray) := by
    decide +kernel
  have hbroken : stream "copilot" broken = .error (.answer "copilot" .functionsNotArray) := by
    split at hfault
    · exact nomatch hfault
    · rename_i failure hfailed
      rw [hfailed, Option.some.inj hfault]
  have hwhole : Text.EndsLine (encoded opening).toList :=
    Text.endsLine_of_getLast? (by decide +kernel)
  have hbrokenWhole : Text.EndsLine broken.toList := Text.endsLine_of_getLast? (by decide +kernel)
  exact ⟨hwhole, hopening, hclosing,
    (stream_append "copilot" hwhole (encoded closing)).1 _ _ hopening hclosing,
    hbrokenWhole, hbroken,
    (stream_append "copilot" hbrokenWhole (encoded closing)).2 _ hbroken nofun nofun⟩

end GuidedSynthesis.Answer
