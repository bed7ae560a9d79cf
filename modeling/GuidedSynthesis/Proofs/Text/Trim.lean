import GuidedSynthesis.Proofs.Text.Lines
/-!
What trimming leaves of a text.

A text is blanks, a core that neither begins nor ends with a blank, and blanks again. There is one
such core only, and trimming gives it (`trim_eq_iff`). A text of blanks has an empty core.
-/

namespace GuidedSynthesis.Text

variable {s core : List Char}

/-- `core` is the text without the blanks at its ends. -/
structure IsCore (s core : List Char) : Prop where
  parts : ∃ before after, s = before ++ (core ++ after) ∧
    (∀ c ∈ before, isBlank c = true) ∧ ∀ c ∈ after, isBlank c = true
  head : ∀ c ∈ core.head?, isBlank c = false
  last : ∀ c ∈ core.getLast?, isBlank c = false

/-! ## 1. Trimming a text with a core -/

theorem trimStart_eq_self (h : ∀ c ∈ s.head?, isBlank c = false) : trimStart s = s := by
  cases s with
  | nil => rfl
  | cons c s => exact List.dropWhile_cons_of_neg (by simp [h c rfl])

theorem trimEnd_eq_self (h : ∀ c ∈ s.getLast?, isBlank c = false) : trimEnd s = s := by
  have hreverse : trimStart s.reverse = s.reverse :=
    trimStart_eq_self (by rwa [List.head?_reverse])
  rw [trimStart] at hreverse
  rw [trimEnd, hreverse, List.reverse_reverse]

theorem IsCore.trim_eq (h : IsCore s core) : trim s = core := by
  obtain ⟨⟨before, after, rfl, hbefore, hafter⟩, hhead, hlast⟩ := h
  rw [trim, trimStart, List.dropWhile_append_of_pos hbefore]
  cases core with
  | nil =>
    rw [List.nil_append, ← List.append_nil after, List.dropWhile_append_of_pos hafter]
    rfl
  | cons c core =>
    have hstart : trimStart (c :: core ++ after) = c :: core ++ after := trimStart_eq_self hhead
    rw [trimStart] at hstart
    rw [hstart, trimEnd_append hafter, trimEnd_eq_self hlast]

/-! ## 2. What is left -/

theorem head?_trimStart (s : List Char) : ∀ c ∈ (trimStart s).head?, isBlank c = false := by
  intro c hc
  have hnot := List.head?_dropWhile_not isBlank s
  rw [trimStart] at hc
  rw [hc] at hnot
  simpa using hnot

/-- Trimming at the end takes blanks from the end. -/
theorem exists_trimEnd_append (s : List Char) :
    ∃ after, trimEnd s ++ after = s ∧ ∀ c ∈ after, isBlank c = true := by
  refine ⟨(s.reverse.takeWhile isBlank).reverse, ?_, ?_⟩
  · rw [trimEnd, ← List.reverse_append, List.takeWhile_append_dropWhile, List.reverse_reverse]
  · intro c hc
    have hall := List.all_takeWhile (l := s.reverse) (p := isBlank)
    exact List.all_eq_true.mp hall c (List.mem_reverse.mp hc)

theorem isCore_trim (s : List Char) : IsCore s (trim s) := by
  obtain ⟨after, hafter, hblanks⟩ := exists_trimEnd_append (trimStart s)
  refine ⟨⟨s.takeWhile isBlank, after, ?_, ?_, hblanks⟩, ?_, ?_⟩
  · rw [trim, hafter, trimStart, List.takeWhile_append_dropWhile]
  · exact List.all_eq_true.mp List.all_takeWhile
  · -- what is left after trimming at the end begins as it did before
    intro c hc
    refine head?_trimStart s c ?_
    have hfirst : (trimEnd (trimStart s)).head? = some c := hc
    rw [← hafter, List.head?_append, hfirst]
    rfl
  · intro c hc
    rw [trim, trimEnd, List.getLast?_reverse] at hc
    exact head?_trimStart (trimStart s).reverse c hc

theorem trim_eq_iff : trim s = core ↔ IsCore s core := by
  constructor
  · rintro rfl
    exact isCore_trim s
  · exact IsCore.trim_eq

end GuidedSynthesis.Text
