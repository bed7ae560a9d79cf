/-!
Finding one text inside another.

`splitFirst?` cuts at the first place where the pattern starts and `splitLast?` at the last one, so
of overlapping occurrences they see the leftmost and the rightmost start. Both return what lies
before and after the occurrence: `splitFirst?_append` and `splitLast?_append` say that nothing is
lost. `replaceFirst` puts another text where the pattern stands first. `pieces` cuts at every place
where a character stands.
-/

namespace GuidedSynthesis.Text

/-- What follows `p` in a text that starts with it. -/
def afterPrefix? : List Char → List Char → Option (List Char)
  | [], s => some s
  | _ :: _, [] => none
  | p :: ps, c :: s => if p = c then afterPrefix? ps s else none

/-- The text around the first occurrence of `p`. -/
def splitFirst? (p : List Char) : List Char → Option (List Char × List Char)
  | [] => (afterPrefix? p []).map ([], ·)
  | c :: s =>
    match afterPrefix? p (c :: s) with
    | some rest => some ([], rest)
    | none => (splitFirst? p s).map fun (before, after) => (c :: before, after)

/-- The text around the last occurrence of `p`. -/
def splitLast? (p : List Char) : List Char → Option (List Char × List Char)
  | [] => (afterPrefix? p []).map ([], ·)
  | c :: s =>
    match splitLast? p s with
    | some (before, after) => some (c :: before, after)
    | none => (afterPrefix? p (c :: s)).map ([], ·)

/-- A text with another one in place of the first occurrence of the pattern. -/
def replaceFirst (pattern replacement text : String) : String :=
  match splitFirst? pattern.toList text.toList with
  | some (before, after) => String.ofList before ++ replacement ++ String.ofList after
  | none => text

/-- The pieces of a text between the places where `separator` stands. -/
def pieces (separator : Char) : List Char → List (List Char)
  | [] => [[]]
  | c :: rest =>
    if c = separator then [] :: pieces separator rest
    else
      match pieces separator rest with
      | piece :: more => (c :: piece) :: more
      | [] => [[c]]

theorem afterPrefix?_eq_some {p s rest : List Char} (h : afterPrefix? p s = some rest) :
    s = p ++ rest := by
  induction p generalizing s with
  | nil => simpa [afterPrefix?] using h
  | cons a p ih =>
    cases s with
    | nil => simp [afterPrefix?] at h
    | cons c s =>
      by_cases hc : a = c
      · simp only [afterPrefix?, hc, if_true] at h
        simp [hc, ih h]
      · simp [afterPrefix?, hc] at h

@[simp] theorem afterPrefix?_append (p rest : List Char) :
    afterPrefix? p (p ++ rest) = some rest := by
  induction p with
  | nil => simp [afterPrefix?]
  | cons a p ih => simp [afterPrefix?, ih]

theorem splitFirst?_append {p s before after : List Char}
    (h : splitFirst? p s = some (before, after)) : s = before ++ p ++ after := by
  induction s generalizing before with
  | nil =>
    simp only [splitFirst?, Option.map_eq_some_iff] at h
    obtain ⟨r, hr, he⟩ := h
    cases he
    simpa using afterPrefix?_eq_some hr
  | cons c s ih =>
    simp only [splitFirst?] at h
    split at h
    · rename_i rest hr
      cases h
      simpa using afterPrefix?_eq_some hr
    · simp only [Option.map_eq_some_iff] at h
      obtain ⟨⟨b, a⟩, hr, he⟩ := h
      cases he
      simp [ih hr]

theorem splitLast?_append {p s before after : List Char}
    (h : splitLast? p s = some (before, after)) : s = before ++ p ++ after := by
  induction s generalizing before after with
  | nil =>
    simp only [splitLast?, Option.map_eq_some_iff] at h
    obtain ⟨r, hr, he⟩ := h
    cases he
    simpa using afterPrefix?_eq_some hr
  | cons c s ih =>
    simp only [splitLast?] at h
    split at h
    · rename_i b a hr
      cases h
      simp [ih hr]
    · simp only [Option.map_eq_some_iff] at h
      obtain ⟨r, hr, he⟩ := h
      cases he
      simpa using afterPrefix?_eq_some hr

end GuidedSynthesis.Text
