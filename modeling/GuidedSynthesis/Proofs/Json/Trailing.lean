import GuidedSynthesis.Proofs.Json.Reading
import Mathlib.Data.List.TakeWhile
/-!
Blanks after a JSON text.

A text is the same document with blanks after it (`Document.ofChars?_append_blanks`), so it does not
matter whether a line is read with its end or without.

## How the proof goes

Every reader takes the same from a longer text and leaves what has been added (`Extends`). For a
string and for a container this is so whatever is added, since a sign ends them; only a numeral goes
on as far as it can, and there the blanks count (`readNumeral_append`). A reader is given more fuel
for a longer text, so the induction is on the fuel of the shorter one.
-/

namespace GuidedSynthesis.Json

/-! ## 1. Strings -/

theorem readPieces_append {s : List Char} {pieces : List Piece} {after : List Char}
    (h : readPieces s = some (pieces, after)) (t : List Char) :
    readPieces (s ++ t) = some (pieces, after ++ t) := by
  fun_induction readPieces s generalizing pieces after with
  | case1 => exact nomatch h
  | case2 rest =>
    cases h
    rfl
  | case3 a b c d rest ih =>
    obtain ⟨n, hn, h⟩ := Option.bind_eq_some_iff.mp h
    obtain ⟨⟨more, after'⟩, hmore, h⟩ := Option.bind_eq_some_iff.mp h
    cases h
    simp only [List.cons_append, readPieces, hn, ih hmore, Option.bind_eq_bind, Option.bind_some]
  | case4 c rest _ ih =>
    obtain ⟨plain, hplain, h⟩ := Option.bind_eq_some_iff.mp h
    obtain ⟨⟨more, after'⟩, hmore, h⟩ := Option.bind_eq_some_iff.mp h
    cases h
    rw [List.cons_append, List.cons_append, readPieces_escape hplain, ih hmore]
    rfl
  | case5 => exact nomatch h
  | case6 c rest hquote _ _ hkept ih =>
    obtain ⟨⟨more, after'⟩, hmore, h⟩ := Option.bind_eq_some_iff.mp h
    cases h
    rw [List.cons_append, readPieces_plain hquote hkept, ih hmore]
    rfl

/-! ## 2. Numerals -/

/-- The sign of an exponent, and what comes after it. -/
def exponentSign : List Char → Bool × List Char
  | '+' :: more => (false, more)
  | '-' :: more => (true, more)
  | rest => (false, rest)

theorem readExponent_cons (c : Char) (rest : List Char) : readExponent (c :: rest) =
    if (decide (c = 'e') || decide (c = 'E')) = true then
      if ((exponentSign rest).2.takeWhile Char.isDigit).isEmpty = true then none
      else some (some ((exponentSign rest).1, (exponentSign rest).2.takeWhile Char.isDigit),
        (exponentSign rest).2.dropWhile Char.isDigit)
    else some (none, c :: rest) := by
  simp only [readExponent]
  fun_cases exponentSign rest with
  | case1 => rfl
  | case2 => rfl
  | case3 => simp_all

theorem exists_cons_of_readNumeral {s rest : List Char} {n : Numeral}
    (h : readNumeral s = some (n, rest)) :
    ∃ c more, s = c :: more ∧ (c = '-' ∨ c.isDigit = true) := by
  cases s with
  | nil => exact nomatch h
  | cons c more =>
    refine ⟨c, more, rfl, or_iff_not_imp_left.mpr fun hminus => ?_⟩
    unfold readNumeral at h
    split at h
    rename_i negative body hsign
    have hbody : body = c :: more := by
      split at hsign
      · obtain ⟨rfl, -⟩ := List.cons.inj ‹_›
        exact absurd rfl hminus
      · exact (Prod.mk.inj hsign).2.symm
    subst hbody
    by_contra hdigit
    rw [List.takeWhile_cons_of_neg hdigit] at h
    exact nomatch h

section

variable {t : List Char} (ht : ∀ c ∈ t, isBlankChar c = true)
include ht

/-- A sign in front is a sign of the text and none of the blanks. -/
theorem eq_cons_of_append_eq_cons {s more : List Char} {c : Char} (hc : isBlankChar c = false)
    (h : s ++ t = c :: more) : ∃ rest, s = c :: rest ∧ more = rest ++ t := by
  cases s with
  | nil =>
    rw [List.nil_append] at h
    have hblank := ht c (h ▸ List.mem_cons_self)
    exact nomatch hc.symm.trans hblank
  | cons d s =>
    obtain ⟨rfl, rfl⟩ := List.cons.inj h
    exact ⟨s, rfl, rfl⟩

theorem isDigit_eq_false_of_head? {c : Char} (hc : c ∈ t.head?) : c.isDigit = false := by
  have hblank := ht c (List.mem_of_mem_head? hc)
  simp only [isBlankChar, Bool.or_eq_true, decide_eq_true_eq, or_assoc] at hblank
  obtain rfl | rfl | rfl | rfl := hblank <;> rfl

theorem takeWhile_isDigit_append (s : List Char) :
    (s ++ t).takeWhile Char.isDigit = s.takeWhile Char.isDigit := by
  induction s with
  | nil =>
    cases t with
    | nil => rfl
    | cons c t =>
      exact List.takeWhile_cons_of_neg (by simp [isDigit_eq_false_of_head? ht rfl])
  | cons c s ih => rw [List.cons_append, List.takeWhile_cons, List.takeWhile_cons, ih]

theorem dropWhile_isDigit_append (s : List Char) :
    (s ++ t).dropWhile Char.isDigit = s.dropWhile Char.isDigit ++ t := by
  induction s with
  | nil =>
    cases t with
    | nil => rfl
    | cons c t =>
      exact List.dropWhile_cons_of_neg (by simp [isDigit_eq_false_of_head? ht rfl])
  | cons c s ih =>
    rw [List.cons_append, List.dropWhile_cons, List.dropWhile_cons, ih]
    split <;> rfl

theorem readFraction_append {s fraction rest : List Char}
    (h : readFraction s = some (fraction, rest)) :
    readFraction (s ++ t) = some (fraction, rest ++ t) := by
  unfold readFraction at h
  split at h
  · simp only [List.cons_append, readFraction, takeWhile_isDigit_append ht,
      dropWhile_isDigit_append ht] at h ⊢
    split at h
    · exact nomatch h
    · rename_i hdigits
      cases h
      exact if_neg hdigits
  · rename_i hpoint
    cases h
    rw [readFraction.eq_2]
    intro more hmore
    obtain ⟨rest, hrest, -⟩ := eq_cons_of_append_eq_cons ht (by decide) hmore
    exact hpoint rest hrest

theorem exponentSign_append (s : List Char) :
    exponentSign (s ++ t) = ((exponentSign s).1, (exponentSign s).2 ++ t) := by
  fun_cases exponentSign s with
  | case1 => rfl
  | case2 => rfl
  | case3 s hplus hminus =>
    rw [exponentSign.eq_3]
    · intro more hmore
      obtain ⟨rest, hrest, -⟩ := eq_cons_of_append_eq_cons ht (by decide) hmore
      exact hplus rest hrest
    · intro more hmore
      obtain ⟨rest, hrest, -⟩ := eq_cons_of_append_eq_cons ht (by decide) hmore
      exact hminus rest hrest

theorem readExponent_append {s rest : List Char} {exponent : Option (Bool × List Char)}
    (h : readExponent s = some (exponent, rest)) :
    readExponent (s ++ t) = some (exponent, rest ++ t) := by
  cases s with
  | nil =>
    cases h
    cases t with
    | nil => rfl
    | cons c more =>
      rw [List.nil_append, readExponent_cons, if_neg]
      intro hmark
      rw [Bool.or_eq_true, decide_eq_true_eq, decide_eq_true_eq] at hmark
      have hblank := ht c List.mem_cons_self
      obtain rfl | rfl := hmark <;> exact nomatch hblank
  | cons c s =>
    rw [List.cons_append]
    rw [readExponent_cons] at h ⊢
    split at h
    · rename_i hmark
      rw [if_pos hmark, exponentSign_append ht]
      simp only [takeWhile_isDigit_append ht, dropWhile_isDigit_append ht]
      split at h
      · exact nomatch h
      · rename_i hdigits
        cases h
        exact if_neg hdigits
    · rename_i hmark
      cases h
      exact if_neg hmark

theorem readNumeral_append {s rest : List Char} {n : Numeral}
    (h : readNumeral s = some (n, rest)) : readNumeral (s ++ t) = some (n, rest ++ t) := by
  unfold readNumeral at h ⊢
  split at h
  rename_i negative body hsign
  split
  rename_i negative' body' hsign'
  have hsame : negative' = negative ∧ body' = body ++ t := by
    split at hsign
    · cases hsign
      cases hsign'
      exact ⟨rfl, rfl⟩
    · rename_i hminus
      cases hsign
      split at hsign'
      · rename_i hmore
        obtain ⟨rest, hrest, -⟩ := eq_cons_of_append_eq_cons ht (by decide) hmore
        exact absurd hrest (hminus rest)
      · cases hsign'
        exact ⟨rfl, rfl⟩
  obtain ⟨rfl, rfl⟩ := hsame
  simp only [takeWhile_isDigit_append ht, dropWhile_isDigit_append ht] at h ⊢
  split at h
  · exact nomatch h
  · rename_i hdigits
    obtain ⟨⟨fraction, afterFraction⟩, hfraction, h⟩ := Option.bind_eq_some_iff.mp h
    obtain ⟨⟨exponent, afterExponent⟩, hexponent, h⟩ := Option.bind_eq_some_iff.mp h
    cases h
    rw [if_neg hdigits]
    simp only [readFraction_append ht hfraction, readExponent_append ht hexponent,
      Option.bind_eq_bind, Option.bind_some]

end

/-! ## 3. Blanks -/

theorem skipBlanks_append {s : List Char} (h : skipBlanks s ≠ []) (t : List Char) :
    skipBlanks (s ++ t) = skipBlanks s ++ t := by
  rw [skipBlanks] at h ⊢
  rw [List.dropWhile_append, if_neg (by rwa [List.isEmpty_iff]), skipBlanks]

theorem skipBlanks_append_of_eq_cons {s more : List Char} {c : Char} (h : skipBlanks s = c :: more)
    (t : List Char) : skipBlanks (s ++ t) = c :: (more ++ t) := by
  rw [skipBlanks_append (h ▸ List.cons_ne_nil c more), h]
  rfl

theorem skipBlanks_append_eq_nil {s t : List Char} (h : skipBlanks s = [])
    (ht : ∀ c ∈ t, isBlankChar c = true) : skipBlanks (s ++ t) = [] := by
  rw [skipBlanks] at h ⊢
  rw [List.dropWhile_append, h, List.dropWhile_eq_nil_iff.mpr ht]
  rfl

/-! ## 4. Values -/

/-- With a text after it and with more fuel, a text is read as before and what follows is left. -/
def Extends {α : Type} (read : Nat → List Char → Option (α × List Char)) (t : List Char)
    (fuel : Nat) : Prop :=
  ∀ s a rest, read fuel s = some (a, rest) →
    ∀ more, fuel ≤ more → read more (s ++ t) = some (a, rest ++ t)

theorem readValue_nil (fuel : Nat) : readValue fuel [] = none := by
  cases fuel <;> rfl

theorem readItems_nil (fuel : Nat) : readItems fuel [] = none := by
  cases fuel with
  | zero => rfl
  | succ fuel => rw [readItems, readValue_nil]; rfl

theorem readFields_nil (fuel : Nat) : readFields fuel [] = none := by
  cases fuel <;> rfl

section

variable {t : List Char} {fuel : Nat}

/-- Where something is read, there is something. -/
theorem exists_skipBlanks_eq_cons {α : Type} {read : List Char → Option α} (hnil : read [] = none)
    {s : List Char} {a : α} (h : read (skipBlanks s) = some a) :
    ∃ c more, skipBlanks s = c :: more := by
  refine List.exists_cons_of_ne_nil fun hempty => ?_
  rw [hempty, hnil] at h
  exact nomatch h

theorem Extends.afterBlanks {α : Type} {read : Nat → List Char → Option (α × List Char)}
    (hread : Extends read t fuel) (hnil : read fuel [] = none) {s rest : List Char} {a : α}
    (h : read fuel (skipBlanks s) = some (a, rest)) {more : Nat} (hmore : fuel ≤ more) :
    read more (skipBlanks (s ++ t)) = some (a, rest ++ t) := by
  obtain ⟨c, text, hopen⟩ := exists_skipBlanks_eq_cons hnil h
  rw [skipBlanks_append (hopen ▸ List.cons_ne_nil c text)]
  exact hread _ _ _ h more hmore

theorem extends_readItems (hvalue : Extends readValue t fuel) (hitems : Extends readItems t fuel) :
    Extends readItems t (fuel + 1) := by
  rintro s items rest h (_ | more) hmore
  · exact absurd hmore (Nat.not_succ_le_zero fuel)
  have hfuel : fuel ≤ more := Nat.le_of_succ_le_succ hmore
  rw [readItems] at h ⊢
  obtain ⟨⟨item, after⟩, hitem, h⟩ := Option.bind_eq_some_iff.mp h
  rw [hvalue s item after hitem more hfuel]
  dsimp only at h
  split at h
  · rename_i hcomma
    obtain ⟨⟨others, after'⟩, hothers, h⟩ := Option.bind_eq_some_iff.mp h
    cases h
    simp only [Option.bind_eq_bind, Option.bind_some, skipBlanks_append_of_eq_cons hcomma,
      hitems.afterBlanks (readItems_nil fuel) hothers hfuel]
  · rename_i hend
    cases h
    simp only [Option.bind_eq_bind, Option.bind_some, skipBlanks_append_of_eq_cons hend]
  · cases h

theorem extends_readFields (hvalue : Extends readValue t fuel)
    (hfields : Extends readFields t fuel) : Extends readFields t (fuel + 1) := by
  rintro s fields rest h (_ | more) hmore
  · exact absurd hmore (Nat.not_succ_le_zero fuel)
  have hfuel : fuel ≤ more := Nat.le_of_succ_le_succ hmore
  rw [readFields.eq_def] at h
  dsimp only at h
  split at h
  · obtain ⟨⟨key, afterKey⟩, hkey, h⟩ := Option.bind_eq_some_iff.mp h
    rw [List.cons_append, readFields, readPieces_append hkey]
    dsimp only at h
    split at h
    · rename_i hcolon
      obtain ⟨⟨value, afterValue⟩, hread, h⟩ := Option.bind_eq_some_iff.mp h
      dsimp only at h
      split at h
      · rename_i hcomma
        obtain ⟨⟨others, after⟩, hothers, h⟩ := Option.bind_eq_some_iff.mp h
        cases h
        simp only [Option.bind_eq_bind, Option.bind_some, skipBlanks_append_of_eq_cons hcolon,
          hvalue.afterBlanks (readValue_nil fuel) hread hfuel, skipBlanks_append_of_eq_cons hcomma,
          hfields.afterBlanks (readFields_nil fuel) hothers hfuel]
      · rename_i hend
        cases h
        simp only [Option.bind_eq_bind, Option.bind_some, skipBlanks_append_of_eq_cons hcolon,
          hvalue.afterBlanks (readValue_nil fuel) hread hfuel, skipBlanks_append_of_eq_cons hend]
      · cases h
    · cases h
  · cases h

theorem extends_readValue (ht : ∀ c ∈ t, isBlankChar c = true) (hitems : Extends readItems t fuel)
    (hfields : Extends readFields t fuel) : Extends readValue t (fuel + 1) := by
  rintro s document rest h (_ | more) hmore
  · exact absurd hmore (Nat.not_succ_le_zero fuel)
  have hfuel : fuel ≤ more := Nat.le_of_succ_le_succ hmore
  rw [readValue.eq_def] at h
  dsimp only at h
  split at h
  · cases h
    rfl
  · cases h
    rfl
  · cases h
    rfl
  · obtain ⟨⟨pieces, after⟩, hpieces, h⟩ := Option.bind_eq_some_iff.mp h
    cases h
    rw [List.cons_append, readValue, readPieces_append hpieces]
    rfl
  · split at h
    · rename_i hend
      cases h
      rw [List.cons_append, readValue, skipBlanks_append_of_eq_cons hend]
      rfl
    · rename_i hclosed
      obtain ⟨⟨items, after⟩, hread, h⟩ := Option.bind_eq_some_iff.mp h
      cases h
      obtain ⟨c, text, hopen⟩ := exists_skipBlanks_eq_cons (readItems_nil fuel) hread
      have hextended := hitems.afterBlanks (readItems_nil fuel) hread hfuel
      rw [List.cons_append, readValue]
      rw [skipBlanks_append_of_eq_cons hopen] at hextended ⊢
      split
      · obtain ⟨rfl, -⟩ := List.cons.inj ‹_›
        exact absurd hopen (hclosed text)
      · rw [hextended]
        rfl
  · split at h
    · rename_i hend
      cases h
      rw [List.cons_append, readValue, skipBlanks_append_of_eq_cons hend]
      rfl
    · rename_i hclosed
      obtain ⟨⟨fields, after⟩, hread, h⟩ := Option.bind_eq_some_iff.mp h
      cases h
      obtain ⟨c, text, hopen⟩ := exists_skipBlanks_eq_cons (readFields_nil fuel) hread
      have hextended := hfields.afterBlanks (readFields_nil fuel) hread hfuel
      rw [List.cons_append, readValue]
      rw [skipBlanks_append_of_eq_cons hopen] at hextended ⊢
      split
      · obtain ⟨rfl, -⟩ := List.cons.inj ‹_›
        exact absurd hopen (hclosed text)
      · rw [hextended]
        rfl
  · obtain ⟨⟨n, after⟩, hread, h⟩ := Option.bind_eq_some_iff.mp h
    cases h
    obtain ⟨c, text, rfl, hc⟩ := exists_cons_of_readNumeral hread
    rw [List.cons_append, readValue_numeral hc, ← List.cons_append, readNumeral_append ht hread]
    rfl

/-- Blanks after a text make no difference to what it begins with, with more fuel or the same. -/
theorem extends_of_blanks (ht : ∀ c ∈ t, isBlankChar c = true) (fuel : Nat) :
    Extends readValue t fuel ∧ Extends readItems t fuel ∧ Extends readFields t fuel := by
  induction fuel with
  | zero => exact ⟨nofun, nofun, nofun⟩
  | succ fuel ih =>
    obtain ⟨hvalue, hitems, hfields⟩ := ih
    exact ⟨extends_readValue ht hitems hfields, extends_readItems hvalue hitems,
      extends_readFields hvalue hfields⟩

/-- A text with blanks after it is the same document. -/
theorem Document.ofChars?_append_blanks {s : List Char} {document : Document}
    (h : ofChars? s = some document) (ht : ∀ c ∈ t, isBlankChar c = true) :
    ofChars? (s ++ t) = some document := by
  unfold ofChars? at h ⊢
  split at h
  · rename_i read rest hread
    have hextends := (extends_of_blanks ht (2 * s.length + 2)).1.afterBlanks (readValue_nil _) hread
      (show _ ≤ 2 * (s ++ t).length + 2 by rw [List.length_append]; omega)
    rw [hextends]
    dsimp only
    split at h
    · rename_i hrest
      cases h
      rw [List.isEmpty_iff] at hrest
      rw [skipBlanks_append_eq_nil hrest ht]
      rfl
    · exact nomatch h
  · exact nomatch h

end

end GuidedSynthesis.Json
