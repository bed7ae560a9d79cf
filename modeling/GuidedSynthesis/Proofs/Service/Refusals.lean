import GuidedSynthesis.Proofs.Json.Trailing
import GuidedSynthesis.Proofs.Service.Answers
/-!
The code service reports an error.

A success may still carry the report of an error: one line with a JSON object that has a message
(`Answer.Reports`). A generation tells such a report from a stream of events and is rejected with
the message. A repair does not look for it. It takes the report for an answer without a repair, so
the message is lost and the failure is of another category (`Service.refusal_of_reports`).

## How the proof goes

A generation reads the report in the line, a repair in the whole body, which may have the end of the
line on it (`Text.eq_of_lines_eq_singleton`); that end is blank and makes no difference
(`Json.Document.ofChars?_append_blanks`). An object that has no field for a repair leaves the field
out for the reader of records too (`Json.Document.slot?_eq_missing`).
-/

namespace GuidedSynthesis

/-! ## 1. Reports -/

theorem Text.LineEnd.isBlankChar_of_mem (ending : Text.LineEnd) :
    ∀ c ∈ ending.text, Json.isBlankChar c = true := by
  cases ending with
  | feed => exact List.forall_mem_singleton.mpr rfl
  | returnFeed => exact List.forall_mem_cons.mpr ⟨rfl, List.forall_mem_singleton.mpr rfl⟩

namespace Answer

variable {text message : String}

/-- A text is one line, a JSON object that reports an error with the message and gives no repair. A
message that is no string is reported by its JSON text. -/
def Reports (text message : String) : Prop :=
  ∃ line report value, Text.lines text.toList = [line] ∧ Json.parse? line = some report ∧
    report.get? "error_message" = some value ∧ report.get? "repairResponse" = none ∧
    message = value.string?.getD value.render

theorem Reports.stream_eq (h : Reports text message) (service : String) :
    stream service text = .error (.rejected service message) := by
  obtain ⟨line, report, value, hline, hreport, hvalue, -, rfl⟩ := h
  simp only [stream, hline, refusal?, hreport, Option.bind_some, errorMessage?, hvalue,
    Option.map_some]

theorem Reports.repairText_eq (h : Reports text message) :
    CodeStream.repairText text = .error .missingRepair := by
  obtain ⟨line, report, value, hline, hreport, hvalue, hnone, -⟩ := h
  obtain ⟨document, hdocument, hread⟩ := Option.bind_eq_some_iff.mp hreport
  have hwhole : Json.Document.ofChars? text.toList = some document := by
    obtain htext | ⟨ending, htext⟩ := Text.eq_of_lines_eq_singleton hline
    · rw [htext, hdocument]
    · rw [htext]
      exact Json.Document.ofChars?_append_blanks hdocument ending.isBlankChar_of_mem
  have hmissing := Json.Document.slot?_eq_missing hread hvalue hnone 126
  have hdecoded : Json.decode? CodeStream.repairDecoder text = some none := by
    refine Json.decode?_eq_some_iff.mpr ⟨document, hwhole, ?_⟩
    rw [CodeStream.repairDecoder, Json.maxDepth, Json.Document.slots?_singleton, hmissing]
    rfl
  rw [CodeStream.repairText, hdecoded]

/-- An object that is written on one line is a report if it has a message and no repair. -/
theorem reports_of_portable {fields : List (String × Json)} {value : Json}
    (hportable : (Json.object fields).Portable Json.maxDepth)
    (hline : Text.lines text.toList = [(Json.object fields).compact])
    (hvalue : fields.lookup "error_message" = some value)
    (hnone : fields.lookup "repairResponse" = none) :
    Reports text (value.string?.getD value.render) :=
  ⟨_, _, value, hline, Json.readsBack_of_portable hportable, hvalue, hnone, rfl⟩

end Answer

/-! ## 2. Services -/

/-- The text of a success is read. -/
theorem Post.exchange_of_success {p : Post} {network : Network} {sent : List Sent} {status : Nat}
    {body : String} (hanswered : p.IsAnswered network sent status body)
    (hstatus : 200 ≤ status ∧ status < 300) (service : String) (timeoutMillis : Nat) :
    (p.exchange service timeoutMillis network sent).1 = .ok (Reply.text status body) := by
  have hfinal : Reply.isFinal status = true := by
    simp only [Reply.isFinal, Bool.or_eq_true, Bool.and_eq_true, decide_eq_true_eq]
    omega
  rw [exchange_of_isAnswered hanswered hfinal, if_pos hstatus]

namespace Service

variable {s : Service} {network : Network} {sent : List Sent} {status : Nat} {body message : String}

theorem exists_backend_eq_copilot (hkind : s.kind = .copilot) :
    ∃ baseUrl, s.backend = .copilot baseUrl := by
  rw [kind] at hkind
  cases hbackend : s.backend with
  | copilot baseUrl => exact ⟨baseUrl, rfl⟩
  | anthropic | azureOpenai | openai =>
    rw [hbackend] at hkind
    cases hkind

theorem generated_of_reports (hkind : s.kind = .copilot) (h : Answer.Reports body message) :
    s.generated body = .error (.rejected s.name message) := by
  obtain ⟨baseUrl, hbackend⟩ := exists_backend_eq_copilot hkind
  simp only [generated, generationText, hbackend, h.stream_eq]
  rfl

theorem repaired_of_reports (hkind : s.kind = .copilot) (h : Answer.Reports body message) :
    s.repaired body = .error (.answer s.name .missingRepair) := by
  obtain ⟨baseUrl, hbackend⟩ := exists_backend_eq_copilot hkind
  simp only [repaired, repairText, hbackend, h.repairText_eq]
  rfl

section

variable (hkind : s.kind = .copilot) (hstatus : 200 ≤ status ∧ status < 300)
  (hreports : Answer.Reports (Reply.text status body) message)
include hkind hstatus hreports

theorem generate_of_reports {useCase : String} {sources : SourceSet}
    (hanswered : (s.generationPost useCase sources).IsAnswered network sent status body) :
    (s.generate network sent useCase sources).1 = .error (.rejected s.name message) := by
  have hgenerate : (s.generate network sent useCase sources).1 =
      ((s.generationPost useCase sources).exchange s.name s.timeoutMillis network sent).1.bind
        s.generated := rfl
  rw [hgenerate, Post.exchange_of_success hanswered hstatus]
  exact generated_of_reports hkind hreports

theorem repair_of_reports {context : RepairContext}
    (hanswered : (s.repairPost context).IsAnswered network sent status body) :
    (s.repair network sent context).1 = .error (.answer s.name .missingRepair) := by
  rw [repair_eq, Post.exchange_of_success hanswered hstatus]
  exact repaired_of_reports hkind hreports

end

/-- What a report makes of a generation and of a repair, whatever else it says and whatever its
message is: only the generation is rejected. -/
theorem refusal_of_reports (s : Service) (hkind : s.kind = .copilot) (network : Network)
    (sent : List Sent) (status : Nat) (body message : String)
    (hstatus : 200 ≤ status ∧ status < 300)
    (hreports : Answer.Reports (Reply.text status body) message) :
    (∀ useCase sources,
      (s.generationPost useCase sources).IsAnswered network sent status body →
      (s.generate network sent useCase sources).1 = .error (.rejected s.name message)) ∧
    ∀ context, (s.repairPost context).IsAnswered network sent status body →
      (s.repair network sent context).1 = .error (.answer s.name .missingRepair) :=
  ⟨fun _ _ => generate_of_reports hkind hstatus hreports,
    fun _ => repair_of_reports hkind hstatus hreports⟩

/-- A request for a repair. -/
def repairOfTwo : RepairContext := ⟨.constantExpression, "one", .empty, ⟨"2", none⟩, []⟩

/-- Whatever the answer is, a generation and a repair are answered. -/
theorem isAnswered_proxy (status : Nat) (body : String) :
    (proxy.generationPost "one" .empty).IsAnswered (always status body) [] status body ∧
    (proxy.repairPost repairOfTwo).IsAnswered (always status body) [] status body :=
  ⟨isAnswered_always (by decide +kernel) status body,
    isAnswered_always (by decide +kernel) status body⟩

/-- A report of which the message is no string, with more fields and with the end of the line. -/
def busy : String := "\x7b\"code\":7,\"error_message\":[\"busy\"]\x7d\r\n"

theorem refusal_of_reports_of_busy :
    proxy.kind = .copilot ∧ (200 ≤ 200 ∧ 200 < 300) ∧
    Answer.Reports (Reply.text 200 busy) "[\"busy\"]" ∧
    (proxy.generate (always 200 busy) [] "one" .empty).1 =
      .error (.rejected "copilot" "[\"busy\"]") ∧
    (proxy.repair (always 200 busy) [] repairOfTwo).1 =
      .error (.answer "copilot" .missingRepair) := by
  have hunmarked : Reply.text 200 busy = busy := by decide +kernel
  have hmessage : (Json.array [.string "busy"]).Portable 126 :=
    .array (List.forall_mem_singleton.mpr (.string _))
  have hportable :
      (Json.object [("code", .ofNat 7), ("error_message", .array [.string "busy"])]).Portable 127 :=
    .object (by decide) (List.forall_mem_cons.mpr
      ⟨.whole ⟨by decide, by decide⟩, List.forall_mem_singleton.mpr hmessage⟩)
  have hreports : Answer.Reports (Reply.text 200 busy) "[\"busy\"]" := by
    rw [hunmarked]
    exact Answer.reports_of_portable hportable (by decide +kernel) rfl rfl
  obtain ⟨hgenerates, hrepairs⟩ :=
    refusal_of_reports proxy rfl (always 200 busy) [] 200 busy _ (by decide) hreports
  obtain ⟨hgeneration, hrepair⟩ := isAnswered_proxy 200 busy
  exact ⟨rfl, by decide, hreports, hgenerates _ _ hgeneration, hrepairs _ hrepair⟩

/-- A report of an error as a service makes it. -/
def overQuota : String := "\x7b\"error_message\":\"quota exceeded\"\x7d"

/-- A repair is not rejected where a generation is. -/
theorem repair_is_not_rejected :
    Answer.Reports (Reply.text 200 overQuota) "quota exceeded" ∧
    (proxy.repairPost repairOfTwo).IsAnswered (always 200 overQuota) [] 200 overQuota ∧
    (proxy.generate (always 200 overQuota) [] "one" .empty).1 =
      .error (.rejected "copilot" "quota exceeded") ∧
    (proxy.repair (always 200 overQuota) [] repairOfTwo).1 ≠
      .error (.rejected "copilot" "quota exceeded") := by
  have hunmarked : Reply.text 200 overQuota = overQuota := by decide +kernel
  have hportable : (Json.object [("error_message", .string "quota exceeded")]).Portable 127 :=
    .object (List.pairwise_singleton _ _) (List.forall_mem_singleton.mpr (.string _))
  have hreports : Answer.Reports (Reply.text 200 overQuota) "quota exceeded" := by
    rw [hunmarked]
    exact Answer.reports_of_portable hportable (by decide +kernel) rfl rfl
  obtain ⟨hgeneration, hrepair⟩ := isAnswered_proxy 200 overQuota
  refine ⟨hreports, hrepair, generate_of_reports rfl (by decide) hreports hgeneration, ?_⟩
  rw [repair_of_reports rfl (by decide) hreports hrepair]
  exact nofun

end Service

end GuidedSynthesis
