import GuidedSynthesis.Proofs.Service.Wire
/-!
What an answer decides.

What becomes of a generation or of a repair when an answer arrives is the same for all services
(`answer_decides`). An answer that is no success is a rejection with its status and its whole body,
whatever the body tells. A success that tells nothing is blamed on the service. A success that tells
a text gives the code in it; only here a generation and a repair differ, for a repair may go without
code.

## How the proof goes

What a body tells is known from `GuidedSynthesis.Proofs.Service.Wire`. It remains to be seen what is
taken from it (`generated_of_tellsCode`, `repaired_of_tellsRepair`), and then there is one argument
for any exchange and any reader (`decides_of_exchange`).
-/

namespace GuidedSynthesis

namespace Service

/-! ## 1. What is taken -/

section

variable {s : Service} {body : String}

/-- A generation has to give code. -/
def codeOf (s : Service) (told : Answer.Stream) : Result GeneratedCode :=
  match Answer.code? told.text with
  | some code => .ok ⟨code, told.functions⟩
  | none => .error (.missingCodeBlock s.name)

theorem generated_of_tellsCode {told : Answer.Stream} (h : s.TellsCode body told) :
    s.generated body = s.codeOf told := by
  have hgenerated : s.generated body =
      (Answer.requireCode s.name told.text).bind fun code => .ok ⟨code, told.functions⟩ := by
    simp only [generated, generationText_eq_ok_iff.mpr h]
    rfl
  rw [hgenerated, Answer.requireCode, codeOf]
  cases Answer.code? told.text <;> rfl

theorem generated_of_untold (h : ∀ told, ¬ s.TellsCode body told) :
    ∃ failure, s.generated body = .error failure ∧ failure.BlamesAnswer s.name := by
  cases htext : s.generationText body with
  | ok told => exact absurd (generationText_eq_ok_iff.mp htext) (h told)
  | error failure =>
    refine ⟨failure, ?_, blamesAnswer_of_generationText htext⟩
    simp only [generated, htext]
    rfl

/-- The code in the body of an answer to a repair, if there is any. -/
def repaired (s : Service) (body : String) : Result (Option String) :=
  (s.repairText body).map Answer.code?

theorem repaired_of_tellsRepair {text : String} (h : s.TellsRepair body text) :
    s.repaired body = .ok (Answer.code? text) := by
  rw [repaired, repairText_eq_ok_iff.mpr h]
  rfl

theorem repaired_of_untold (h : ∀ text, ¬ s.TellsRepair body text) :
    ∃ failure, s.repaired body = .error failure ∧ failure.BlamesAnswer s.name := by
  cases htext : s.repairText body with
  | ok text => exact absurd (repairText_eq_ok_iff.mp htext) (h text)
  | error failure =>
    refine ⟨failure, ?_, blamesAnswer_of_repairText htext⟩
    rw [repaired, htext]
    rfl

end

end Service

/-! ## 2. Exchanges -/

/-- A request is sent, and an answer with the status and the body arrives. -/
def Post.IsAnswered (p : Post) (network : Network) (sent : List Sent) (status : Nat)
    (body : String) : Prop :=
  ∃ request, p.sent? = some request ∧ network sent request = .answered status body

theorem Post.exchange_of_isAnswered {p : Post} {network : Network} {sent : List Sent}
    {status : Nat} {body : String} (h : p.IsAnswered network sent status body)
    (hfinal : Reply.isFinal status = true) (service : String) (timeoutMillis : Nat) :
    (p.exchange service timeoutMillis network sent).1 =
      if 200 ≤ status ∧ status < 300 then .ok (Reply.text status body)
      else .error (.rejected service ("HTTP request failed with status code " ++
        String.ofList (Decimal.digitsOf status) ++ " and body: " ++ Reply.text status body)) := by
  obtain ⟨request, hsent, hanswered⟩ := h
  simp only [exchange, hsent, hanswered, Reply.content, Reply.answer, hfinal, if_true,
    Reply.isSuccess, Bool.and_eq_true, decide_eq_true_eq]
  rfl

theorem Reply.text_eq_self {status : Nat} {body : String}
    (hbody : ¬ (status = 101 ∨ status = 204 ∨ status = 304))
    (hmark : body.toList.head? ≠ some (Char.ofNat 0xfeff)) : text status body = body := by
  rw [text, if_neg hbody]
  split
  · rename_i c rest hchars
    rw [if_neg]
    intro hc
    rw [hchars, List.head?_cons, ← hc, Char.ofNat_toNat] at hmark
    exact hmark rfl
  · rfl

namespace Service

variable {α β : Type} {s : Service} {status : Nat} {text : String} {Tells : β → Prop}
  {take : β → Result α} {result : Result α}

/-- What an answer with a status and a text makes of what was asked for, when `take` is what comes
of a text that is told. -/
structure Decides (s : Service) (status : Nat) (text : String) (Tells : β → Prop)
    (take : β → Result α) (result : Result α) : Prop where
  /-- An answer that is no success is a rejection, whatever it tells. -/
  rejected : ¬ (200 ≤ status ∧ status < 300) →
    result = .error (.rejected s.name ("HTTP request failed with status code " ++
      String.ofList (Decimal.digitsOf status) ++ " and body: " ++ text))
  /-- A success that tells nothing is blamed on the service. -/
  untold : 200 ≤ status ∧ status < 300 → (∀ told, ¬ Tells told) →
    ∃ failure, result = .error failure ∧ failure.BlamesAnswer s.name ∧
      (failure.category = .serviceAnswer ∨ failure.category = .rejected)
  told : 200 ≤ status ∧ status < 300 → ∀ told, Tells told → result = take told

theorem Decides.cases (h : Decides s status text Tells take result) :
    (∃ failure, result = .error failure ∧ failure.BlamesAnswer s.name) ∨
      ∃ told, Tells told ∧ result = take told := by
  by_cases hstatus : 200 ≤ status ∧ status < 300
  · by_cases htells : ∃ told, Tells told
    · obtain ⟨told, htold⟩ := htells
      exact .inr ⟨told, htold, h.told hstatus told htold⟩
    · obtain ⟨failure, hresult, hblames, -⟩ := h.untold hstatus (not_exists.mp htells)
      exact .inl ⟨failure, hresult, hblames⟩
  · exact .inl ⟨_, h.rejected hstatus, .inr ⟨_, rfl⟩⟩

/-- An exchange with a reader that takes what is told, and blames the answer if nothing is. -/
theorem decides_of_exchange {p : Post} {network : Network} {sent : List Sent} {body : String}
    {read : String → Result α} (hanswered : p.IsAnswered network sent status body)
    (hfinal : Reply.isFinal status = true)
    (htold : ∀ told, Tells told → read (Reply.text status body) = take told)
    (huntold : (∀ told, ¬ Tells told) → ∃ failure,
      read (Reply.text status body) = .error failure ∧ failure.BlamesAnswer s.name) :
    Decides s status (Reply.text status body) Tells take
      ((p.exchange s.name s.timeoutMillis network sent).1.bind read) := by
  rw [Post.exchange_of_isAnswered hanswered hfinal]
  refine ⟨?_, ?_, ?_⟩
  · intro hstatus
    rw [if_neg hstatus]
    rfl
  · intro hstatus hnothing
    rw [if_pos hstatus]
    obtain ⟨failure, hread, hblames⟩ := huntold hnothing
    exact ⟨failure, hread, hblames, hblames.category⟩
  · intro hstatus told htells
    rw [if_pos hstatus]
    exact htold told htells

/-! ## 3. The law of an answer -/

/-- What an answer makes of a generation. -/
structure GenerationLaw (s : Service) (status : Nat) (text : String)
    (result : Result GeneratedCode) : Prop
    extends Decides s status text (s.TellsCode text) s.codeOf result where
  /-- Only the code service gives helper functions, and it gives them in an array. -/
  functions : ∀ generated functions, result = .ok generated →
    generated.auxiliaryFunctions = some functions → s.kind = .copilot ∧ functions.isArray = true

/-- What an answer makes of a repair. There may be no block of code in it, and that is never a
failure. -/
structure RepairLaw (s : Service) (status : Nat) (text : String)
    (result : Result (Option String)) : Prop
    extends Decides s status text (s.TellsRepair text) (fun told => .ok (Answer.code? told)) result
    where
  noBlock : ∀ service, result ≠ .error (.missingCodeBlock service)

theorem repair_eq (s : Service) (network : Network) (sent : List Sent) (c : RepairContext) :
    (s.repair network sent c).1 =
      ((s.repairPost c).exchange s.name s.timeoutMillis network sent).1.bind s.repaired := by
  have hmap (content : Result String) :
      (content.bind s.repairText).map Answer.code? = content.bind s.repaired := by
    cases content <;> rfl
  exact hmap _

theorem generationLaw_of_decides {generated : Result GeneratedCode}
    (h : Decides s status text (s.TellsCode text) s.codeOf generated) :
    GenerationLaw s status text generated := by
  refine ⟨h, ?_⟩
  rintro code functions rfl hfunctions
  obtain ⟨_, hfailed, -⟩ | ⟨told, htold, hcode⟩ := h.cases
  · exact nomatch hfailed
  · unfold codeOf at hcode
    split at hcode
    · cases hcode
      exact htold.functions hfunctions
    · exact nomatch hcode

theorem repairLaw_of_decides {repaired : Result (Option String)}
    (h : Decides s status text (s.TellsRepair text) (fun told => .ok (Answer.code? told))
      repaired) : RepairLaw s status text repaired := by
  refine ⟨h, ?_⟩
  rintro service rfl
  obtain ⟨failure, hfailed, hblames⟩ | ⟨told, -, hcode⟩ := h.cases
  · cases hfailed
    exact hblames.ne_missingCodeBlock service rfl
  · exact nomatch hcode

/-- What becomes of a generation and of a repair when an answer arrives, whatever its status and its
body are. The body is handed on as it is but for a byte-order mark, unless the status says that
there is none. -/
theorem answer_decides (s : Service) (network : Network) (sent : List Sent) (status : Nat)
    (body : String) (hfinal : Reply.isFinal status = true) :
    (∀ useCase sources,
      (s.generationPost useCase sources).IsAnswered network sent status body →
      GenerationLaw s status (Reply.text status body)
        (s.generate network sent useCase sources).1) ∧
    (∀ context, (s.repairPost context).IsAnswered network sent status body →
      RepairLaw s status (Reply.text status body) (s.repair network sent context).1) ∧
    (¬ (status = 101 ∨ status = 204 ∨ status = 304) →
      body.toList.head? ≠ some (Char.ofNat 0xfeff) → Reply.text status body = body) := by
  refine ⟨?_, ?_, Reply.text_eq_self⟩
  · intro useCase sources hanswered
    exact generationLaw_of_decides <|
      decides_of_exchange hanswered hfinal (fun _ => generated_of_tellsCode) generated_of_untold
  · intro context hanswered
    rw [repair_eq]
    exact repairLaw_of_decides <|
      decides_of_exchange hanswered hfinal (fun _ => repaired_of_tellsRepair) repaired_of_untold

/-! A stream that is an answer to a generation and none to a repair. -/

/-- A code service. Its token and its prompts do not matter. -/
def proxy : Service := ⟨.copilot "http://[::1]/", "token", 1000, ⟨""⟩⟩

/-- Tells helper functions, then code. -/
def oneStream : String :=
  "event: functions\ndata: [\"helper\"]\n" ++
    "event: content_block_delta\ndata: \x7b\"text\": \"```ballerina\\n1\\n```\"\x7d\n"

/-- Always gives the same answer. -/
def always (status : Nat) (body : String) : Network := fun _ _ => .answered status body

theorem isAnswered_always {p : Post} (h : p.sent?.isSome = true) (status : Nat) (body : String) :
    p.IsAnswered (always status body) [] status body := by
  obtain ⟨request, hsent⟩ := Option.isSome_iff_exists.mp h
  exact ⟨request, hsent, rfl⟩

theorem answer_decides_of_oneStream :
    Reply.isFinal 200 = true ∧ Reply.isFinal 500 = true ∧
    (∃ helpers, helpers.isArray = true ∧
      (proxy.generate (always 200 oneStream) [] "one" .empty).1 = .ok ⟨"1", some helpers⟩) ∧
    (proxy.generate (always 500 oneStream) [] "one" .empty).1 =
      .error (.rejected "copilot"
        ("HTTP request failed with status code 500 and body: " ++ oneStream)) ∧
    ∃ failure, (proxy.repair (always 200 oneStream) []
        ⟨.constantExpression, "one", .empty, ⟨"2", none⟩, []⟩).1 = .error failure ∧
      failure.BlamesAnswer "copilot" := by
  have hgeneration : (proxy.generationPost "one" .empty).sent?.isSome = true := by decide +kernel
  have hrepair : (proxy.repairPost
      ⟨.constantExpression, "one", .empty, ⟨"2", none⟩, []⟩).sent?.isSome = true := by
    decide +kernel
  have hunmarked : oneStream.toList.head? ≠ some (Char.ofNat 0xfeff) := by decide +kernel
  -- What the body tells is evaluated; that it tells no text of a repair is because it is no JSON.
  have hread : ((proxy.generationText oneStream).toOption.map fun told =>
      (Answer.code? told.text, told.functions.isSome)) = some (some "1", true) := by
    decide +kernel
  obtain ⟨told, htold, hcode, helpers, hhelpers⟩ : ∃ told, proxy.TellsCode oneStream told ∧
      Answer.code? told.text = some "1" ∧ ∃ helpers, told.functions = some helpers := by
    cases htext : proxy.generationText oneStream with
    | error failure =>
      rw [htext] at hread
      exact nomatch hread
    | ok told =>
      rw [htext] at hread
      obtain ⟨hcode, hhelpers⟩ := Prod.mk.inj (Option.some.inj hread)
      exact ⟨told, generationText_eq_ok_iff.mp htext, hcode, Option.isSome_iff_exists.mp hhelpers⟩
  have hnoDocument : (Json.Document.ofChars? oneStream.toList).isNone = true := by decide +kernel
  have huntold (text : String) : ¬ proxy.TellsRepair oneStream text := by
    rintro ⟨document, _, hdocument, -⟩
    rw [hdocument] at hnoDocument
    exact nomatch hnoDocument
  obtain ⟨hgenerates, hrepairs, hbody⟩ :=
    answer_decides proxy (always 200 oneStream) [] 200 oneStream rfl
  have hgenerated := hgenerates "one" .empty (isAnswered_always hgeneration 200 oneStream)
  have hrepaired := hrepairs _ (isAnswered_always hrepair 200 oneStream)
  rw [hbody (by decide) hunmarked] at hgenerated hrepaired
  have hresult := hgenerated.told (by decide) told htold
  rw [codeOf, hcode, hhelpers] at hresult
  obtain ⟨hrejects, -, hrejectedBody⟩ :=
    answer_decides proxy (always 500 oneStream) [] 500 oneStream rfl
  have hrejected := hrejects "one" .empty (isAnswered_always hgeneration 500 oneStream)
  rw [hrejectedBody (by decide) hunmarked] at hrejected
  obtain ⟨failure, hfailed, hblames, -⟩ := hrepaired.untold (by decide) huntold
  exact ⟨rfl, rfl, ⟨helpers, (hgenerated.functions _ _ hresult rfl).2, hresult⟩,
    hrejected.rejected (by decide), failure, hfailed, hblames⟩

end Service

end GuidedSynthesis
