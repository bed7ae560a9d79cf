import GuidedSynthesis.Toml.Document
import GuidedSynthesis.Toml.Printer
/-!
A string that is written is the string that is read.

A string is written in one of six forms, and every form is read back as it was meant, in front of
any text that does not go on with a quotation mark or an apostrophe (`readString_stringText`).

## How the proof goes

Each form is an induction on the string, with one step of the reader for each character. An escape
is read in one step (`readEscape_escape`), and every other character stands for itself.

What is delicate are the marks before a closing delimiter of three, which belong to the string. The
writer never leaves more than two of them together, so the reader meets a run of three only where the
string ends. `Fits` says so of a text, `run` marks having been read before it, and is carried along
the string.
-/

namespace GuidedSynthesis.Toml

/-! ## 1. Characters -/

theorem eq_ofNat_of_toNat {c : Char} {n : Nat} (h : c.toNat = n) : c = Char.ofNat n := by
  rw [← h, Char.ofNat_toNat]

theorem toNat_ne_of_ne_apostrophe {c : Char} (h : c ≠ apostrophe) : c.toNat ≠ 0x27 :=
  fun hcode => h (eq_ofNat_of_toNat hcode)

/-- What is no control character and no line end may stand in a string as it is. -/
theorem isPlain_of_not_isControl {c : Char} (h : isControl c = false) (hline : c ≠ '\n') :
    isPlain c = true := by
  by_cases htab : c = '\t'
  · rw [htab]
    decide
  · simp only [isControl, Bool.or_eq_false_iff, Bool.and_eq_false_iff, decide_eq_false_iff_not,
      ne_eq, htab, hline, not_false_eq_true, decide_true, or_false, Bool.true_eq_false] at h
    simp only [isPlain, htab, decide_false, Bool.false_or, Bool.and_eq_true, decide_eq_true_eq]
    omega

/-- A carriage return is a control character, so none stands in a string as it is. -/
theorem afterNewline?_cons {c : Char} (h : isControl c = false) (hline : c ≠ '\n')
    (text : List Char) : afterNewline? (c :: text) = none := by
  have hreturn : c ≠ '\r' := by
    rintro rfl
    exact nomatch h
  rw [afterNewline?.eq_def]
  split
  · exact absurd (List.cons.inj ‹_›).1 hline
  · exact absurd (List.cons.inj ‹_›).1 hreturn
  · rfl

/-! ## 2. Escapes -/

theorem hexNumber?_upperHexDigits : ∀ n < 0x80, Text.hexNumber?
    ['0', '0', Text.upperHexDigit (n / 16), Text.upperHexDigit (n % 16)] = some n := by
  decide

/-- The characters that have an escape of two letters. -/
def shortlyEscaped : List Char :=
  [Char.ofNat 0x08, '\t', '\n', Char.ofNat 0x0c, '\r', '"', '\\']

/-- An escape is a reverse solidus with something after it that is read as the character. That
something starts with no blank, so the reverse solidus does not join lines. -/
theorem readEscape_escape {c : Char} (hcode : c.toNat < 0x80) (text : List Char) :
    ∃ d more, escape c = '\\' :: d :: more ∧ afterNewline? (skipSpaces (d :: more ++ text)) = none ∧
      readEscape (d :: more ++ text) = some (c, text) := by
  by_cases hshort : c ∈ shortlyEscaped
  · simp only [shortlyEscaped, List.mem_cons, List.not_mem_nil, or_false] at hshort
    obtain rfl | rfl | rfl | rfl | rfl | rfl | rfl := hshort <;> exact ⟨_, _, rfl, rfl, rfl⟩
  · simp only [shortlyEscaped, List.mem_cons, List.not_mem_nil, or_false, not_or] at hshort
    obtain ⟨hbell, htab, hline, hfeed, hreturn, hquote, hsolidus⟩ := hshort
    have hlong : escape c = ['\\', 'u', '0', '0', Text.upperHexDigit (c.toNat / 16),
        Text.upperHexDigit (c.toNat % 16)] := by
      rw [escape, if_neg (hbell <| eq_ofNat_of_toNat ·), if_neg htab, if_neg hline,
        if_neg (hfeed <| eq_ofNat_of_toNat ·), if_neg hreturn, if_neg hquote, if_neg hsolidus]
    have hscalar : scalar? c.toNat = some c := by
      rw [scalar?, if_pos (by omega), Char.ofNat_toNat]
    refine ⟨_, _, hlong, rfl, ?_⟩
    simp only [List.cons_append, List.nil_append, readEscape, hexNumber?_upperHexDigits _ hcode,
      bind, Option.bind, hscalar]

/-- What is escaped is an ASCII character. -/
theorem toNat_lt_of_isEscaped {c : Char} (h : isEscaped c = true ∨ c = '\n' ∨ c = '"') :
    c.toNat < 0x80 := by
  obtain h | rfl | rfl := h
  · simp only [isEscaped, isControl, Bool.or_eq_true, Bool.and_eq_true, decide_eq_true_eq] at h
    obtain ((⟨⟨h, -⟩, -⟩ | h) | rfl) | rfl := h
    · omega
    · omega
    · decide
    · decide
  · decide
  · decide

/-- What is not escaped stands for itself. -/
theorem isControl_of_not_isEscaped {c : Char} (h : isEscaped c = false) :
    isControl c = false ∧ c ≠ '\\' := by
  simp only [isEscaped, Bool.or_eq_false_iff, decide_eq_false_iff_not] at h
  exact ⟨h.1.1, h.2⟩

/-! ## 3. Strings on one line -/

theorem readBasic_escape {c : Char} (h : isEscaped c = true ∨ c = '\n' ∨ c = '"') (fuel : Nat)
    (text : List Char) :
    readBasic (fuel + 1) (escape c ++ text) = andThen c (readBasic fuel text) := by
  obtain ⟨d, more, hescape, -, hread⟩ := readEscape_escape (toNat_lt_of_isEscaped h) text
  rw [hescape, List.cons_append, readBasic, hread]
  rfl

theorem readBasic_plain {c : Char} (hplain : isPlain c = true) (hquote : c ≠ '"')
    (hsolidus : c ≠ '\\') (fuel : Nat) (text : List Char) :
    readBasic (fuel + 1) (c :: text) = andThen c (readBasic fuel text) := by
  rw [readBasic, if_pos hplain]
  · exact hquote
  · exact hsolidus

theorem readBasic_basicBody (s rest : List Char) : ∀ fuel, s.length < fuel →
    readBasic fuel (basicBody s ++ '"' :: rest) = some (s, rest) := by
  induction s with
  | nil =>
    rintro (_ | fuel) hfuel
    · exact absurd hfuel (Nat.not_lt_zero _)
    · rfl
  | cons c s ih =>
    rintro (_ | fuel) hfuel
    · exact absurd hfuel (Nat.not_lt_zero _)
    have hmore := ih fuel (Nat.lt_of_succ_lt_succ hfuel)
    have hbody : basicBody (c :: s) =
        (if isEscaped c || c = '\n' || c = '"' then escape c else [c]) ++ basicBody s :=
      List.flatMap_cons
    rw [hbody, List.append_assoc]
    split
    · rename_i hescaped
      simp only [Bool.or_eq_true, decide_eq_true_eq, or_assoc] at hescaped
      rw [readBasic_escape hescaped, hmore]
      rfl
    · rename_i hkept
      simp only [Bool.not_eq_true, Bool.or_eq_false_iff, decide_eq_false_iff_not] at hkept
      obtain ⟨⟨hescaped, hline⟩, hquote⟩ := hkept
      obtain ⟨hcontrol, hsolidus⟩ := isControl_of_not_isEscaped hescaped
      rw [List.singleton_append,
        readBasic_plain (isPlain_of_not_isControl hcontrol hline) hquote hsolidus, hmore]
      rfl

theorem readLiteral_plain {s : List Char} (h : ∀ c ∈ s, isPlain c = true ∧ c ≠ apostrophe)
    (rest : List Char) : readLiteral (s ++ apostrophe :: rest) = some (s, rest) := by
  induction s with
  | nil => rfl
  | cons c s ih =>
    rw [List.forall_mem_cons] at h
    obtain ⟨⟨hplain, hmark⟩, hmore⟩ := h
    rw [List.cons_append, readLiteral, if_neg (toNat_ne_of_ne_apostrophe hmark), if_pos hplain,
      ih hmore]
    rfl

/-! ## 4. Strings over several lines -/

/-- A text in which a string ends with three marks: `run` marks having been read before it, those at
its start are either all within the string, or they end with the delimiter. -/
def Fits (mark : Char) (run : Nat) (text : List Char) : Prop :=
  runLength mark text + run ≤ 2 ∨ 3 ≤ runLength mark text ∧ runLength mark text + run ≤ 5

/-- A text that does not start with a mark. -/
def StartsWithout (mark : Char) (text : List Char) : Prop := ∀ c ∈ text.head?, c ≠ mark

section

variable {mark : Char} {run : Nat} {text : List Char}

theorem runLength_mark : runLength mark (mark :: text) = runLength mark text + 1 := by
  simp [runLength]

theorem runLength_of_startsWithout (h : StartsWithout mark text) : runLength mark text = 0 := by
  cases text with
  | nil => rfl
  | cons c text =>
    have hc : c ≠ mark := h c rfl
    simp [runLength, hc]

theorem runLength_delimiter (h : StartsWithout mark text) :
    runLength mark (mark :: mark :: mark :: text) = 3 := by
  simp only [runLength_mark, runLength_of_startsWithout h]

theorem fits_delimiter (h : StartsWithout mark text) (hrun : run ≤ 2) :
    Fits mark run (mark :: mark :: mark :: text) := by
  rw [Fits, runLength_delimiter h]
  omega

theorem Fits.cons (h : Fits mark (run + 1) text) : Fits mark run (mark :: text) := by
  rw [Fits] at h ⊢
  rw [runLength_mark]
  omega

theorem fits_of_ne {c : Char} (h : c ≠ mark) (hrun : run ≤ 2) : Fits mark run (c :: text) := by
  have hstart : StartsWithout mark (c :: text) := fun d hd => Option.some.inj hd ▸ h
  rw [Fits, runLength_of_startsWithout hstart]
  omega

/-- A mark that the string holds does not close it. -/
theorem Fits.closes?_eq (h : Fits mark (run + 1) text) :
    closes? (runLength mark (mark :: text)) = some false := by
  rw [Fits] at h
  rw [runLength_mark, closes?, if_neg (by omega), if_pos (by omega)]

end

theorem readMultiBasic_escape {c : Char} (h : isEscaped c = true ∨ c = '\n' ∨ c = '"') (fuel : Nat)
    (text : List Char) :
    readMultiBasic (fuel + 1) (escape c ++ text) = andThen c (readMultiBasic fuel text) := by
  obtain ⟨d, more, hescape, hline, hread⟩ := readEscape_escape (toNat_lt_of_isEscaped h) text
  rw [hescape, List.cons_append, readMultiBasic, hline, hread]
  rfl

theorem readMultiBasic_plain {c : Char} (hcontrol : isControl c = false) (hquote : c ≠ '"')
    (hsolidus : c ≠ '\\') (fuel : Nat) (text : List Char) :
    readMultiBasic (fuel + 1) (c :: text) = andThen c (readMultiBasic fuel text) := by
  rw [readMultiBasic]
  · by_cases hline : c = '\n'
    · rw [hline]
      rfl
    · rw [afterNewline?_cons hcontrol hline]
      exact if_pos (isPlain_of_not_isControl hcontrol hline)
  · exact hquote
  · exact hsolidus

theorem readMultiBasic_multiBasicBody {rest : List Char} (hrest : StartsWithout '"' rest)
    (s : List Char) : ∀ run ≤ 2, ∀ fuel, s.length < fuel →
      Fits '"' run (multiBasicBody run s ++ '"' :: '"' :: '"' :: rest) ∧
      readMultiBasic fuel (multiBasicBody run s ++ '"' :: '"' :: '"' :: rest) = some (s, rest) := by
  induction s with
  | nil =>
    rintro run hrun (_ | fuel) hfuel
    · exact absurd hfuel (Nat.not_lt_zero _)
    · refine ⟨fits_delimiter hrest hrun, ?_⟩
      rw [multiBasicBody, List.nil_append, readMultiBasic, runLength_delimiter hrest]
      rfl
  | cons c s ih =>
    rintro run hrun (_ | fuel) hfuel
    · exact absurd hfuel (Nat.not_lt_zero _)
    have hmore := fun run hrun => ih run hrun fuel (Nat.lt_of_succ_lt_succ hfuel)
    have hescaped (h : isEscaped c = true ∨ c = '\n' ∨ c = '"') :
        Fits '"' run (escape c ++ multiBasicBody 0 s ++ '"' :: '"' :: '"' :: rest) ∧
        readMultiBasic (fuel + 1) (escape c ++ multiBasicBody 0 s ++ '"' :: '"' :: '"' :: rest) =
          some (c :: s, rest) := by
      obtain ⟨d, more, hescape, -⟩ := readEscape_escape (toNat_lt_of_isEscaped h) []
      rw [List.append_assoc, readMultiBasic_escape h, (hmore 0 (by omega)).2, hescape]
      exact ⟨fits_of_ne (by decide) hrun, rfl⟩
    rw [multiBasicBody]
    split
    · rename_i hquote
      split
      · exact hescaped (.inr (.inr hquote))
      · obtain ⟨hfits, hread⟩ := hmore (run + 1) (by omega)
        subst hquote
        refine ⟨hfits.cons, ?_⟩
        rw [List.cons_append, readMultiBasic, hfits.closes?_eq]
        show andThen '"' (readMultiBasic fuel _) = _
        rw [hread]
        rfl
    · rename_i hquote
      split
      · exact hescaped (.inl ‹_›)
      · rename_i hkept
        obtain ⟨hcontrol, hsolidus⟩ := isControl_of_not_isEscaped (Bool.eq_false_iff.mpr hkept)
        rw [List.cons_append, readMultiBasic_plain hcontrol hquote hsolidus,
          (hmore 0 (by omega)).2]
        exact ⟨fits_of_ne hquote hrun, rfl⟩

theorem le_longestRun (mark : Char) : ∀ (run : Nat) (s : List Char), run ≤ longestRun mark run s
  | _, [] => Nat.le_refl _
  | run, c :: s => by
      rw [longestRun]
      split
      · exact Nat.le_trans (Nat.le_succ run) (le_longestRun mark (run + 1) s)
      · exact Nat.le_max_left _ _

theorem readMultiLiteral_plain {rest : List Char} (hrest : StartsWithout apostrophe rest)
    {s : List Char} (hcontrol : ∀ c ∈ s, isControl c = false) : ∀ run,
    longestRun apostrophe run s ≤ 2 → ∀ fuel, s.length < fuel →
      Fits apostrophe run (s ++ apostrophe :: apostrophe :: apostrophe :: rest) ∧
      readMultiLiteral fuel (s ++ apostrophe :: apostrophe :: apostrophe :: rest) =
        some (s, rest) := by
  induction s with
  | nil =>
    rintro run hrun (_ | fuel) hfuel
    · exact absurd hfuel (Nat.not_lt_zero _)
    · refine ⟨fits_delimiter hrest hrun, ?_⟩
      rw [List.nil_append, readMultiLiteral, if_pos rfl, runLength_delimiter hrest]
      rfl
  | cons c s ih =>
    rintro run hrun (_ | fuel) hfuel
    · exact absurd hfuel (Nat.not_lt_zero _)
    have hshort := Nat.le_trans (le_longestRun apostrophe run (c :: s)) hrun
    rw [List.forall_mem_cons] at hcontrol
    have hmore := fun run hrun => ih hcontrol.2 run hrun fuel (Nat.lt_of_succ_lt_succ hfuel)
    rw [longestRun] at hrun
    split at hrun
    · rename_i hmark
      obtain ⟨hfits, hread⟩ := hmore (run + 1) hrun
      subst hmark
      refine ⟨hfits.cons, ?_⟩
      rw [List.cons_append, readMultiLiteral, if_pos rfl, hfits.closes?_eq]
      show andThen apostrophe (readMultiLiteral fuel _) = _
      rw [hread]
      rfl
    · rename_i hmark
      obtain ⟨-, hread⟩ := hmore 0 (Nat.le_trans (Nat.le_max_right _ _) hrun)
      refine ⟨fits_of_ne hmark hshort, ?_⟩
      rw [List.cons_append, readMultiLiteral, if_neg hmark]
      by_cases hline : c = '\n'
      · rw [hline]
        show andThen '\n' (readMultiLiteral fuel _) = _
        rw [hread]
        rfl
      · rw [afterNewline?_cons hcontrol.1 hline]
        show (if isPlain c = true then andThen c (readMultiLiteral fuel _) else none) = _
        rw [if_pos (isPlain_of_not_isControl hcontrol.1 hline), hread]
        rfl

/-! ## 5. Forms -/

/-- What may follow a string: no mark that could still belong to it. -/
def EndsString (rest : List Char) : Prop :=
  StartsWithout '"' rest ∧ StartsWithout apostrophe rest

theorem length_escape_pos (c : Char) : 1 ≤ (escape c).length := by
  unfold escape
  repeat' split
  all_goals exact Nat.le_add_left 1 _

theorem length_le_basicBody (s : List Char) : s.length ≤ (basicBody s).length := by
  induction s with
  | nil => exact Nat.le_refl 0
  | cons c s ih =>
    have hescape := length_escape_pos c
    rw [basicBody, List.flatMap_cons, List.length_append, ← basicBody, List.length_cons]
    split
    · omega
    · rw [List.length_singleton]
      omega

theorem length_le_multiBasicBody (s : List Char) : ∀ run,
    s.length ≤ (multiBasicBody run s).length := by
  induction s with
  | nil => exact fun _ => Nat.zero_le _
  | cons c s ih =>
    intro run
    have hescape := length_escape_pos c
    have hstart := ih 0
    have hnext := ih (run + 1)
    rw [multiBasicBody]
    repeat' split
    all_goals simp only [List.length_append, List.length_cons]; omega

/-- A quotation mark that is the first character of a string is escaped. -/
theorem exists_basicBody_cons (c : Char) (s : List Char) :
    ∃ d more, basicBody (c :: s) = d :: more ∧ d ≠ '"' := by
  rw [basicBody, List.flatMap_cons]
  split
  · rename_i hescaped
    simp only [Bool.or_eq_true, decide_eq_true_eq, or_assoc] at hescaped
    obtain ⟨d, more, hescape, -⟩ := readEscape_escape (toNat_lt_of_isEscaped hescaped) []
    rw [hescape]
    exact ⟨_, _, rfl, by decide⟩
  · rename_i hkept
    simp only [Bool.not_eq_true, Bool.or_eq_false_iff, decide_eq_false_iff_not] at hkept
    exact ⟨c, _, rfl, hkept.2⟩

theorem skipFirstNewline_cons {c : Char} (h : isControl c = false) (hline : c ≠ '\n')
    (text : List Char) : skipFirstNewline (c :: text) = c :: text := by
  rw [skipFirstNewline, afterNewline?_cons h hline, Option.getD_none]

theorem skipFirstNewline_multiBasicBody {s : List Char} (h : '\n' ∉ s) (text : List Char) :
    skipFirstNewline (multiBasicBody 0 s ++ '"' :: text) = multiBasicBody 0 s ++ '"' :: text := by
  cases s with
  | nil => exact skipFirstNewline_cons (by decide) (by decide) text
  | cons c s =>
    rw [List.mem_cons, not_or] at h
    rw [multiBasicBody]
    split
    · rename_i hquote
      subst hquote
      exact skipFirstNewline_cons (by decide) (by decide) _
    · split
      · obtain ⟨d, more, hescape, -⟩ := readEscape_escape (toNat_lt_of_isEscaped (.inl ‹_›)) []
        rw [hescape]
        exact skipFirstNewline_cons (by decide) (by decide) _
      · rename_i hkept
        obtain ⟨hcontrol, -⟩ := isControl_of_not_isEscaped (Bool.eq_false_iff.mpr hkept)
        exact skipFirstNewline_cons hcontrol (Ne.symm h.1) _

/-- A mark alone opens a string on one line. -/
theorem readString_quote {text : List Char} (h : ∀ more, text ≠ '"' :: '"' :: more) :
    readString ('"' :: text) = readBasic (text.length + 1) text := by
  rw [readString]
  rintro more rfl
  exact h more rfl

theorem readString_apostrophe {c : Char} {text : List Char} (h : c ≠ apostrophe) :
    readString (apostrophe :: c :: text) = readLiteral (c :: text) := by
  cases text with
  | nil => rfl
  | cons d text =>
    show (if (decide (c = apostrophe) && decide (d = apostrophe)) = true then _ else _) = _
    rw [if_neg (by simp [h])]

section

variable {s rest : List Char} (hrest : EndsString rest)
include hrest

theorem readString_basic : readString (delimited '"' false false (basicBody s) ++ rest) =
    some (s, rest) := by
  have hopen : ∀ more, basicBody s ++ '"' :: rest ≠ '"' :: '"' :: more := by
    intro more heq
    cases s with
    | nil =>
      obtain rfl := (List.cons.inj heq).2
      exact hrest.1 _ rfl rfl
    | cons c s =>
      obtain ⟨d, body, hbody, hd⟩ := exists_basicBody_cons c s
      rw [hbody] at heq
      exact hd (List.cons.inj heq).1
  have htext : delimited '"' false false (basicBody s) ++ rest =
      '"' :: (basicBody s ++ '"' :: rest) := by simp [delimited]
  have hlength := length_le_basicBody s
  rw [htext, readString_quote hopen]
  exact readBasic_basicBody s rest _ (by rw [List.length_append]; omega)

omit hrest in
theorem readString_literal (hne : s ≠ []) (h : ∀ c ∈ s, isPlain c = true ∧ c ≠ apostrophe) :
    readString (delimited apostrophe false false s ++ rest) = some (s, rest) := by
  have htext : delimited apostrophe false false s ++ rest =
      apostrophe :: (s ++ apostrophe :: rest) := by simp [delimited]
  obtain ⟨c, more, rfl⟩ := List.exists_cons_of_ne_nil hne
  rw [htext, List.cons_append, readString_apostrophe (h c List.mem_cons_self).2]
  exact readLiteral_plain h rest

/-- The line end after the opening delimiter is dropped; a string without line ends needs none. -/
theorem readString_multiBasic {isSpread : Bool} (hline : isSpread = false → '\n' ∉ s) :
    readString (delimited '"' true isSpread (multiBasicBody 0 s) ++ rest) = some (s, rest) := by
  have hlength := length_le_multiBasicBody s 0
  have hread := readMultiBasic_multiBasicBody hrest.1 s 0 (Nat.zero_le 2)
  cases isSpread with
  | true =>
    have htext : delimited '"' true true (multiBasicBody 0 s) ++ rest = '"' :: '"' :: '"' :: '\n' ::
        (multiBasicBody 0 s ++ '"' :: '"' :: '"' :: rest) := by simp [delimited]
    rw [htext, readString]
    exact (hread _ (by rw [List.length_cons, List.length_append]; omega)).2
  | false =>
    have htext : delimited '"' true false (multiBasicBody 0 s) ++ rest =
        '"' :: '"' :: '"' :: (multiBasicBody 0 s ++ '"' :: '"' :: '"' :: rest) := by
      simp [delimited]
    rw [htext, readString, skipFirstNewline_multiBasicBody (hline rfl)]
    exact (hread _ (by rw [List.length_append]; omega)).2

theorem readString_multiLiteral {isSpread : Bool} (hline : isSpread = false → '\n' ∉ s)
    (hcontrol : ∀ c ∈ s, isControl c = false) (hrun : longestRun apostrophe 0 s ≤ 2) :
    readString (delimited apostrophe true isSpread s ++ rest) = some (s, rest) := by
  have hread := readMultiLiteral_plain hrest.2 hcontrol 0 hrun
  cases isSpread with
  | true =>
    have htext : delimited apostrophe true true s ++ rest =
        apostrophe :: apostrophe :: apostrophe :: '\n' ::
          (s ++ apostrophe :: apostrophe :: apostrophe :: rest) := by simp [delimited]
    rw [htext]
    exact (hread _ (by rw [List.length_cons, List.length_append]; omega)).2
  | false =>
    have htext : delimited apostrophe true false s ++ rest =
        apostrophe :: apostrophe :: apostrophe ::
          (s ++ apostrophe :: apostrophe :: apostrophe :: rest) := by simp [delimited]
    have hfirst : skipFirstNewline (s ++ apostrophe :: apostrophe :: apostrophe :: rest) =
        s ++ apostrophe :: apostrophe :: apostrophe :: rest := by
      cases s with
      | nil => exact skipFirstNewline_cons (by decide) (by decide) _
      | cons c s =>
        have hc : c ≠ '\n' := by
          rintro rfl
          exact hline rfl List.mem_cons_self
        exact skipFirstNewline_cons (hcontrol c List.mem_cons_self) hc _
    rw [htext]
    show readMultiLiteral _ (skipFirstNewline _) = _
    rw [hfirst]
    exact (hread _ (by rw [List.length_append]; omega)).2

end

theorem ne_of_longestRun_eq_zero {mark : Char} : ∀ {s : List Char}, longestRun mark 0 s = 0 →
    ∀ c ∈ s, c ≠ mark
  | [], _ => by simp
  | c :: s, h => by
      rw [longestRun] at h
      split at h
      · have hone := le_longestRun mark (0 + 1) s
        omega
      · rename_i hc
        rw [Nat.max_eq_zero_iff] at h
        exact List.forall_mem_cons.mpr ⟨hc, ne_of_longestRun_eq_zero h.2⟩

/-- A string that is written is read again, whatever it is and whatever comes after it but a mark. -/
theorem readString_stringText (s : List Char) {rest : List Char} (hrest : EndsString rest) :
    readString (stringText s ++ rest) = some (s, rest) := by
  have hcontrol (h : (!s.any isControl) = true) : ∀ c ∈ s, isControl c = false := by simpa using h
  have hline : s.contains '\n' = false → '\n' ∉ s := by simp
  simp only [stringText]
  split
  · exact readString_basic hrest
  rename_i hsimple
  split
  · rename_i hliteral
    simp only [Bool.and_eq_true, Bool.not_eq_true', decide_eq_true_eq] at hliteral
    obtain ⟨⟨hnone, hmarks⟩, hone⟩ := hliteral
    refine readString_literal ?_ fun c hc => ⟨?_, ne_of_longestRun_eq_zero hmarks c hc⟩
    · rintro rfl
      exact hsimple rfl
    · refine isPlain_of_not_isControl (hcontrol (by rw [hnone]; rfl) c hc) ?_
      rintro rfl
      exact hline hone hc
  split
  · exact readString_multiBasic hrest hline
  split
  · rename_i hliteral
    simp only [Bool.and_eq_true, decide_eq_true_eq] at hliteral
    exact readString_multiLiteral hrest hline (hcontrol hliteral.1) hliteral.2
  split
  · exact readString_multiBasic hrest nofun
  · exact readString_basic hrest

end GuidedSynthesis.Toml
