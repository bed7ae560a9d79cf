import GuidedSynthesis.Diagnostic
/-!
The text of a located diagnostic can be taken apart again.

`Diagnostic.errorAt` writes a document, a range and a message one after the other. Within one
document the text tells range and message apart (`message_errorAt_inj`): the range is written with
digits and the signs `(`, `)`, `,` and `:`, so the first `]` after the document is the one that
closes the place, whatever the message holds. No two ranges are written alike (`rangeText_inj`).

## How the proof goes

`append_cons_inj` cuts two equal texts at the first occurrence of a character, and
`bracket_not_mem_rangeText` provides its side condition. The document itself may hold brackets; it
is the same on both sides and cancels. A range is cut in the same way, at its comma and its colons.
-/

namespace GuidedSynthesis

/-! ## 1. Cutting at the first occurrence -/

/-- A text is cut in one way only at the first occurrence of a character. -/
theorem append_cons_inj {α : Type} {c : α} :
    ∀ {xs ys rest more : List α}, c ∉ xs → c ∉ ys → xs ++ c :: rest = ys ++ c :: more →
      xs = ys ∧ rest = more
  | [], [], _, _, _, _, h => by
      injection h with _ h
      exact ⟨rfl, h⟩
  | [], y :: ys, _, _, _, hy, h => by
      injection h with hc _
      exact absurd (hc ▸ List.mem_cons_self) hy
  | x :: xs, [], _, _, hx, _, h => by
      injection h with hc _
      exact absurd (hc ▸ List.mem_cons_self) hx
  | x :: xs, y :: ys, _, _, hx, hy, h => by
      injection h with hc h
      obtain ⟨hxs, hrest⟩ :=
        append_cons_inj (fun hm => hx (List.mem_cons_of_mem _ hm))
          (fun hm => hy (List.mem_cons_of_mem _ hm)) h
      exact ⟨by rw [hc, hxs], hrest⟩

/-! ## 2. The characters of a range -/

/-- A character that can stand in the text of a range. -/
def isRangeChar (c : Char) : Bool := c.isDigit || "(),:".toList.contains c

theorem isDigit_of_mem_wordText {n : UInt32} {c : Char} (h : c ∈ (wordText n).toList) :
    c.isDigit = true := by
  rw [wordText, String.toList_ofList] at h
  exact Decimal.isDigit_of_mem_digitsOf h

theorem all_isRangeChar_wordText (n : UInt32) : (wordText n).toList.all isRangeChar = true := by
  rw [List.all_eq_true]
  intro c hc
  rw [isRangeChar, isDigit_of_mem_wordText hc, Bool.true_or]

theorem all_isRangeChar_positionText (p : Position) : p.text.toList.all isRangeChar = true := by
  simp only [Position.text, String.toList_append, List.all_append, all_isRangeChar_wordText]
  decide

theorem all_isRangeChar_rangeText (r : Range) : r.text.toList.all isRangeChar = true := by
  simp only [Range.text, String.toList_append, List.all_append, all_isRangeChar_positionText]
  decide

theorem bracket_not_mem_rangeText (r : Range) : ']' ∉ r.text.toList := by
  intro hm
  have h := List.all_eq_true.mp (all_isRangeChar_rangeText r) ']' hm
  revert h
  decide

/-! ## 3. Ranges are told apart -/

theorem wordText_inj {m n : UInt32} (h : wordText m = wordText n) : m = n := by
  have hdigits := congrArg String.toList h
  simp only [wordText, String.toList_ofList] at hdigits
  exact UInt32.toNat_inj.mp (Decimal.digitsOf_inj hdigits)

theorem not_mem_wordText {c : Char} (h : c.isDigit = false) (n : UInt32) :
    c ∉ (wordText n).toList := fun hc => by simp [isDigit_of_mem_wordText hc] at h

theorem toList_positionText (p : Position) :
    p.text.toList = (wordText p.line).toList ++ ':' :: (wordText p.offset).toList := by
  simp [Position.text, String.toList_append]

theorem positionText_inj {p q : Position} (h : p.text = q.text) : p = q := by
  obtain ⟨line, offset⟩ := p
  obtain ⟨line', offset'⟩ := q
  have htexts := congrArg String.toList h
  rw [toList_positionText, toList_positionText] at htexts
  obtain ⟨hline, hoffset⟩ :=
    append_cons_inj (not_mem_wordText rfl line) (not_mem_wordText rfl line') htexts
  have hlines : line = line' := wordText_inj (String.toList_inj.mp hline)
  have hoffsets : offset = offset' := wordText_inj (String.toList_inj.mp hoffset)
  rw [hlines, hoffsets]

theorem comma_not_mem_positionText (p : Position) : ',' ∉ p.text.toList := by
  rw [toList_positionText]
  simp [not_mem_wordText (c := ',') rfl]

theorem toList_rangeText (r : Range) :
    r.text.toList = '(' :: (r.start.text.toList ++ ',' :: (r.stop.text.toList ++ [')'])) := by
  simp [Range.text, String.toList_append]

theorem rangeText_inj {r s : Range} (h : r.text = s.text) : r = s := by
  obtain ⟨start, stop⟩ := r
  obtain ⟨start', stop'⟩ := s
  have htexts := congrArg String.toList h
  rw [toList_rangeText, toList_rangeText, List.cons.injEq] at htexts
  obtain ⟨hstart, hstop⟩ := append_cons_inj (comma_not_mem_positionText start)
    (comma_not_mem_positionText start') htexts.2
  have hstarts : start = start' := positionText_inj (String.toList_inj.mp hstart)
  have hstops : stop = stop' :=
    positionText_inj (String.toList_inj.mp (List.append_cancel_right hstop))
  rw [hstarts, hstops]

/-! ## 4. Located diagnostics -/

/-- The text of a located diagnostic, cut at the bracket that closes the place. -/
theorem toList_message_errorAt (document : String) (r : Range) (message : String) :
    (Diagnostic.errorAt document r message).message.toList =
      ("ERROR [" ++ document ++ ":").toList ++
        (r.text.toList ++ ']' :: ' ' :: message.toList) := by
  simp [Diagnostic.errorAt, String.toList_append, List.append_assoc]

/-- Located diagnostics of one document that read the same have the same range and the same
message. -/
theorem message_errorAt_inj {document m₁ m₂ : String} {r₁ r₂ : Range}
    (h : (Diagnostic.errorAt document r₁ m₁).message =
      (Diagnostic.errorAt document r₂ m₂).message) :
    r₁ = r₂ ∧ m₁ = m₂ := by
  have hl := congrArg String.toList h
  rw [toList_message_errorAt, toList_message_errorAt] at hl
  obtain ⟨hr, hm⟩ := append_cons_inj (bracket_not_mem_rangeText r₁) (bracket_not_mem_rangeText r₂)
    (List.append_cancel_left hl)
  injection hm with _ hm
  exact ⟨rangeText_inj (String.toList_inj.mp hr), String.toList_inj.mp hm⟩

end GuidedSynthesis
