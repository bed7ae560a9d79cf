import GuidedSynthesis.Proofs.Diagnostic.Located
import GuidedSynthesis.Proofs.Diagnostic.Merging
import Mathlib.Data.List.Nodup
/-!
Errors of one document are told apart by range and message.

An error at a place has one text, whoever found it: the host compiler and the validator write it
alike (`ofHost_errorAt`). Within a document two such errors read the same exactly when they have the
same range and the same message, so merging keeps an entry for each of them and no entry stands for
two (`errorAt_told_apart`). Where all diagnostics are errors of one document, merging them is
keeping the pairs of a range and a message, each once.

An entry for an error need not be that error itself. Another diagnostic may have the same text, one
without a place for instance, and if it stands first it is what is kept.

## How the proof goes

That texts are told apart is `message_errorAt_inj`. A merged list has an entry for each text
(`exists_mem_merge`) and not two (`eq_of_mem_merge`), so entries differ where texts do. And keeping
the first of each key depends on nothing but which keys are the same (`firstsBy_map`), so the keys
may be the pairs instead of the texts.
-/

namespace GuidedSynthesis

/-! ## 1. Keys that agree -/

/-- The first of each key are the same for keys that agree. -/
theorem firstsBy_map {α β κ ι : Type} [DecidableEq κ] [DecidableEq ι] {key : α → κ}
    {other : β → ι} {f : β → α} (h : ∀ b c, key (f b) = key (f c) ↔ other b = other c)
    (xs : List β) : firstsBy key (xs.map f) = (firstsBy other xs).map f := by
  induction xs using List.reverseRecOn with
  | nil => rfl
  | append_singleton xs b ih =>
    have hseen : key (f b) ∈ (xs.map f).map key ↔ other b ∈ xs.map other := by
      simp only [List.map_map, List.mem_map, Function.comp_apply, h]
    rw [List.map_append, List.map_singleton, firstsBy_concat, firstsBy_concat, ih, List.map_append]
    by_cases hb : other b ∈ xs.map other
    · rw [if_pos (hseen.mpr hb), if_pos hb, List.map_nil]
    · rw [if_neg (mt hseen.mp hb), if_neg hb, List.map_singleton]

/-! ## 2. Texts -/

/-- An error of the host compiler at a range of a document. -/
def HostDiagnostic.errorAt (document : String) (range : Range) (message : String) :
    HostDiagnostic := ⟨.error, message, some document, some range⟩

namespace Diagnostic

variable {document : String}

theorem message_errorAt_eq_iff {r₁ r₂ : Range} {m₁ m₂ : String} :
    (errorAt document r₁ m₁).message = (errorAt document r₂ m₂).message ↔ r₁ = r₂ ∧ m₁ = m₂ := by
  constructor
  · exact message_errorAt_inj
  · rintro ⟨rfl, rfl⟩
    rfl

/-- The two writers agree. -/
theorem text_errorAt (document : String) (range : Range) (message : String) :
    (HostDiagnostic.errorAt document range message).text =
      (errorAt document range message).message := by
  have hopening : Severity.error.text ++ " [" = "ERROR [" := by decide
  show Severity.error.text ++ " [" ++ document ++ ":" ++ range.text ++ "] " ++ message = _
  rw [hopening]
  rfl

theorem ofHost_errorAt (document : String) (range : Range) (message : String) :
    ofHost (.errorAt document range message) = errorAt document range message := by
  rw [ofHost, text_errorAt]
  rfl

/-! ## 3. Entries -/

variable {host validator : List Diagnostic}

theorem exists_mem_merge {d : Diagnostic} (h : d ∈ host ++ validator) :
    ∃ kept ∈ merge host validator, kept.message = d.message :=
  List.mem_map.mp (((keptOnce_dedup (host ++ validator)).messages _).mpr (List.mem_map_of_mem h))

theorem eq_of_mem_merge {kept other : Diagnostic} (hkept : kept ∈ merge host validator)
    (hother : other ∈ merge host validator) (h : kept.message = other.message) : kept = other :=
  List.inj_on_of_nodup_map (keptOnce_dedup (host ++ validator)).nodup hkept hother h

/-! ## 4. Errors of one document -/

/-- Merging keeps an entry for every error of a document, and one entry for two of them only if
their range and their message are the same. -/
theorem exists_entries {r₁ r₂ : Range} {m₁ m₂ : String}
    (h₁ : errorAt document r₁ m₁ ∈ host ++ validator)
    (h₂ : errorAt document r₂ m₂ ∈ host ++ validator) :
    ∃ kept₁ ∈ merge host validator, ∃ kept₂ ∈ merge host validator,
      kept₁.message = (errorAt document r₁ m₁).message ∧
      kept₂.message = (errorAt document r₂ m₂).message ∧
      (kept₁ = kept₂ ↔ r₁ = r₂ ∧ m₁ = m₂) := by
  obtain ⟨kept₁, hkept₁, htext₁⟩ := exists_mem_merge h₁
  obtain ⟨kept₂, hkept₂, htext₂⟩ := exists_mem_merge h₂
  refine ⟨kept₁, hkept₁, kept₂, hkept₂, htext₁, htext₂, ?_⟩
  have htexts : kept₁.message = kept₂.message ↔ r₁ = r₂ ∧ m₁ = m₂ := by
    rw [htext₁, htext₂, message_errorAt_eq_iff]
  exact ⟨fun heq => htexts.mp (congrArg message heq),
    fun hsame => eq_of_mem_merge hkept₁ hkept₂ (htexts.mpr hsame)⟩

/-- What the host compiler tells of a document, each error by its range and its message. -/
def toldIn (document : String) (errors : List (Range × String)) : List Diagnostic :=
  errors.map fun (range, message) => ofHost (.errorAt document range message)

/-- What the validator finds in a document, each error by its range and its message. -/
def foundIn (document : String) (errors : List (Range × String)) : List Diagnostic :=
  errors.map fun (range, message) => errorAt document range message

theorem toldIn_eq_foundIn (document : String) (errors : List (Range × String)) :
    toldIn document errors = foundIn document errors :=
  List.map_congr_left fun (range, message) _ => ofHost_errorAt document range message

/-- To merge errors of one document is to keep each pair of a range and a message once. -/
theorem merge_toldIn_foundIn (document : String) (told found : List (Range × String)) :
    merge (toldIn document told) (foundIn document found) =
      foundIn document (firstsBy id (told ++ found)) := by
  rw [toldIn_eq_foundIn, merge, dedup, foundIn, foundIn, ← List.map_append]
  refine firstsBy_map ?_ (told ++ found)
  rintro ⟨r₁, m₁⟩ ⟨r₂, m₂⟩
  rw [message_errorAt_eq_iff, id_eq, id_eq, Prod.mk.injEq]

/-- Errors of one document read the same exactly when they have the same range and the same message,
whether the validator has found them or the host compiler has told them, for both make one
diagnostic of them. Whatever is merged, an entry is left for every error of a document, and one
entry for two of them only if range and message are the same. And errors of one document alone are
merged as pairs of a range and a message, of which each is kept once. -/
theorem errorAt_told_apart (document : String) :
    (∀ r₁ r₂ m₁ m₂, (errorAt document r₁ m₁).message = (errorAt document r₂ m₂).message ↔
      r₁ = r₂ ∧ m₁ = m₂) ∧
    (∀ r₁ r₂ m₁ m₂, (errorAt document r₁ m₁).message =
      (HostDiagnostic.errorAt document r₂ m₂).text ↔ r₁ = r₂ ∧ m₁ = m₂) ∧
    (∀ r m, ofHost (.errorAt document r m) = errorAt document r m) ∧
    (∀ (host validator : List Diagnostic) (r₁ r₂ : Range) (m₁ m₂ : String),
      errorAt document r₁ m₁ ∈ host ++ validator → errorAt document r₂ m₂ ∈ host ++ validator →
      ∃ kept₁ ∈ merge host validator, ∃ kept₂ ∈ merge host validator,
        kept₁.message = (errorAt document r₁ m₁).message ∧
        kept₂.message = (errorAt document r₂ m₂).message ∧
        (kept₁ = kept₂ ↔ r₁ = r₂ ∧ m₁ = m₂)) ∧
    ∀ told found : List (Range × String),
      merge (toldIn document told) (foundIn document found) =
        foundIn document (firstsBy id (told ++ found)) := by
  refine ⟨fun _ _ _ _ => message_errorAt_eq_iff, ?_, ofHost_errorAt document, ?_,
    merge_toldIn_foundIn document⟩
  · intro r₁ r₂ m₁ m₂
    rw [text_errorAt]
    exact message_errorAt_eq_iff
  · intro host validator r₁ r₂ m₁ m₂ h₁ h₂
    exact exists_entries h₁ h₂

/-- A message may look like a place, and a diagnostic without a place may stand first and read like
an error: what is kept for the two errors still differs. -/
theorem errorAt_told_apart_of_lookAlikes :
    let first : Diagnostic := errorAt "a.bal" ⟨⟨1, 4⟩, ⟨1, 9⟩⟩ "x"
    let told : HostDiagnostic := .errorAt "a.bal" ⟨⟨1, 4⟩, ⟨1, 90⟩⟩ "[a.bal:(1:4,1:9)] x"
    let host : List Diagnostic := [unlocated first.message, ofHost told]
    first ∈ host ++ [first] ∧ ofHost told ∈ host ++ [first] ∧
      ∃ kept₁ ∈ merge host [first], ∃ kept₂ ∈ merge host [first],
        kept₁.message = first.message ∧ kept₂.message = told.text ∧ kept₁ ≠ kept₂ := by
  intro first told host
  have hfirst : first ∈ host ++ [first] := by simp
  have htold : ofHost told ∈ host ++ [first] := by simp [host]
  have hsame : ofHost told = errorAt "a.bal" ⟨⟨1, 4⟩, ⟨1, 90⟩⟩ "[a.bal:(1:4,1:9)] x" :=
    (errorAt_told_apart "a.bal").2.2.1 _ _
  obtain ⟨kept₁, hkept₁, kept₂, hkept₂, htext₁, htext₂, hiff⟩ :=
    (errorAt_told_apart "a.bal").2.2.2.1 host [first] _ _ _ _ hfirst (hsame ▸ htold)
  refine ⟨hfirst, htold, kept₁, hkept₁, kept₂, hkept₂, htext₁, ?_, ?_⟩
  · rw [htext₂, ← hsame]
    rfl
  · intro heq
    exact absurd (hiff.mp heq).1 (by decide)

end Diagnostic

end GuidedSynthesis
