import GuidedSynthesis.Json.Document
import GuidedSynthesis.Json.Printer
/-!
Compact JSON text is read again.

The compact text of a value whose numbers are whole (`Integral`) is read as one document, and which
one it is can be computed (`Document.ofJson`): wherever the text stands in front of a sign that ends
an item, the reader takes exactly the text and leaves what follows (`Reads`), with as much fuel as the
text is long twice over.

A value whose numbers fit 64 bits, whose objects have their keys in ascending order and that is not
nested too deep (`Portable`) is the free-form value of its document, and so it is what its compact
text is read as (`readsBack_of_portable`).

## How the proof goes

The proof goes through the value. A character in a string is either there as it stands or given by a
short escape or a number; the pieces of the string tell these apart no longer (`Piece.ofChar`).
-/

namespace GuidedSynthesis.Json

open Decimal (digitsOf intText isDigit_of_mem_digitsOf)

/-! ## 1. What follows a value -/

/-- What may follow a value in compact text: nothing, or a sign that ends an item. -/
def Delimited (rest : List Char) : Prop := ∀ c ∈ rest.head?, c = ',' ∨ c = ']' ∨ c = '}'

theorem Delimited.cases {rest : List Char} (h : Delimited rest) :
    rest = [] ∨ ∃ c more, rest = c :: more ∧ (c = ',' ∨ c = ']' ∨ c = '}') := by
  cases rest with
  | nil => exact .inl rfl
  | cons c more => exact .inr ⟨c, more, rfl, h c rfl⟩

/-! ## 2. Numerals -/

theorem digitsValue_eq_ofDigitChars (digits : List Char) :
    digitsValue digits = Nat.ofDigitChars 10 digits 0 := by
  have hstep : (fun n c => n * 10 + digitValue c) =
      fun (n : Nat) (c : Char) => 10 * n + (c.toNat - '0'.toNat) := by
    funext n c
    rw [Nat.mul_comm]
    rfl
  rw [digitsValue, hstep]
  rfl

theorem digitsValue_digitsOf (n : Nat) : digitsValue (digitsOf n) = n := by
  rw [digitsValue_eq_ofDigitChars]
  exact Nat.ofDigitChars_toDigits (by decide) (by decide)

/-- Only zero is written with a zero in front. -/
theorem head?_digitsOf_ne_zero {n : Nat} (h : 0 < n) : (digitsOf n).head? ≠ some '0' := by
  induction n using Nat.strongRecOn with
  | _ n ih =>
    by_cases hsmall : n < 10
    · have hdigit : ∀ d < 10, 0 < d → d.digitChar ≠ '0' := by decide
      rw [digitsOf, Nat.toDigits_of_lt_base hsmall]
      intro hzero
      exact hdigit n hsmall h (Option.some.inj hzero)
    · have hfront : digitsOf n = digitsOf (n / 10) ++ [(n % 10).digitChar] :=
        Nat.toDigits_of_base_le (by decide) (Nat.le_of_not_lt hsmall)
      have hne : digitsOf (n / 10) ≠ [] := Nat.toDigits_ne_nil
      rw [hfront, List.head?_append, Option.or_of_isSome (List.isSome_head?.mpr hne)]
      exact ih (n / 10) (by omega) (by omega)

section

variable {rest : List Char} (hrest : Delimited rest)
include hrest

theorem takeWhile_digitsOf_append (n : Nat) :
    (digitsOf n ++ rest).takeWhile Char.isDigit = digitsOf n := by
  rw [List.takeWhile_append_of_pos fun c hc => isDigit_of_mem_digitsOf hc]
  obtain rfl | ⟨c, more, rfl, rfl | rfl | rfl⟩ := hrest.cases <;> simp [Char.isDigit]

theorem dropWhile_digitsOf_append (n : Nat) :
    (digitsOf n ++ rest).dropWhile Char.isDigit = rest := by
  rw [List.dropWhile_append_of_pos fun c hc => isDigit_of_mem_digitsOf hc]
  obtain rfl | ⟨c, more, rfl, rfl | rfl | rfl⟩ := hrest.cases <;> simp [Char.isDigit]

theorem readFraction_of_delimited : readFraction rest = some ([], rest) := by
  obtain rfl | ⟨c, more, rfl, rfl | rfl | rfl⟩ := hrest.cases <;> rfl

theorem readExponent_of_delimited : readExponent rest = some (none, rest) := by
  obtain rfl | ⟨c, more, rfl, rfl | rfl | rfl⟩ := hrest.cases <;> rfl

end

theorem digitsOf_admitted (n : Nat) :
    ((digitsOf n).isEmpty ||
      (decide ((digitsOf n).head? = some '0') && decide (1 < (digitsOf n).length))) = false := by
  have hne : digitsOf n ≠ [] := Nat.toDigits_ne_nil
  rw [Bool.or_eq_false_iff, List.isEmpty_eq_false_iff]
  refine ⟨hne, ?_⟩
  obtain rfl | hpos := Nat.eq_zero_or_pos n
  · decide
  · rw [decide_eq_false (head?_digitsOf_ne_zero hpos), Bool.false_and]

/-- No digit is a sign. -/
theorem digitsOf_append_ne_minus {n : Nat} {rest more : List Char} :
    digitsOf n ++ rest ≠ '-' :: more := by
  have hne : digitsOf n ≠ [] := Nat.toDigits_ne_nil
  obtain ⟨d, ds, hds⟩ := List.exists_cons_of_ne_nil hne
  rw [hds]
  intro h
  have hdigit : d.isDigit = true := isDigit_of_mem_digitsOf (hds ▸ List.mem_cons_self)
  rw [(List.cons.inj h).1] at hdigit
  exact absurd hdigit (by decide)

/-- The numeral of a whole number. -/
def Numeral.ofInt (n : Int) : Numeral := ⟨decide (n < 0), digitsOf n.natAbs, [], none⟩

theorem readNumeral_intText {rest : List Char} (hrest : Delimited rest) (n : Int) :
    readNumeral (intText n ++ rest) = some (.ofInt n, rest) := by
  unfold readNumeral
  split
  rename_i negative s hsign
  have hs : negative = decide (n < 0) ∧ s = digitsOf n.natAbs ++ rest := by
    by_cases hneg : n < 0
    · rw [intText, if_pos hneg] at hsign
      obtain ⟨rfl, rfl⟩ := Prod.mk.inj hsign
      exact ⟨(decide_eq_true hneg).symm, rfl⟩
    · rw [intText, if_neg hneg] at hsign
      split at hsign
      · exact absurd ‹_› digitsOf_append_ne_minus
      · obtain ⟨rfl, rfl⟩ := Prod.mk.inj hsign
        exact ⟨(decide_eq_false hneg).symm, rfl⟩
  obtain ⟨rfl, rfl⟩ := hs
  simp only [takeWhile_digitsOf_append hrest, dropWhile_digitsOf_append hrest,
    digitsOf_admitted, readFraction_of_delimited hrest, readExponent_of_delimited hrest,
    Bool.false_eq_true, if_false, Option.bind_eq_bind, Option.bind_some, Numeral.ofInt]

/-- A whole number that fits 64 bits, with sign or without. -/
def Fits (n : Int) : Prop := -0x8000000000000000 ≤ n ∧ n ≤ 0xffffffffffffffff

theorem number?_ofInt {n : Int} (h : Fits n) : (Numeral.ofInt n).number? = some (.whole n) := by
  obtain ⟨hlow, hhigh⟩ := h
  have hword : wordBound = 0x10000000000000000 := rfl
  have hsigned : Nat.pow 2 63 = 0x8000000000000000 := rfl
  simp only [Numeral.ofInt, Numeral.number?, digitsValue_digitsOf, List.isEmpty_nil, Option.isNone_none,
    Bool.and_self, if_true, hword, hsigned]
  by_cases hneg : n < 0
  · have hfits : 0 < n.natAbs ∧ n.natAbs ≤ 0x8000000000000000 := by omega
    have hvalue : -(n.natAbs : Int) = n := by omega
    simp only [hneg, hfits.1, hfits.2, hvalue, decide_true, Bool.not_true, Bool.false_and,
      Bool.and_self, Bool.false_eq_true, if_false, if_true]
  · have hfits : n.natAbs < 0x10000000000000000 := by omega
    have hvalue : (n.natAbs : Int) = n := by omega
    simp only [hneg, hfits, hvalue, decide_false, decide_true, Bool.not_false, Bool.and_self,
      if_true]

/-! ## 3. Strings -/

/-- The piece that a written character is read as. Only control characters that have no short escape
are given by number. -/
def Piece.ofChar (c : Char) : Piece :=
  if c.toNat < 0x20 ∧ c.toNat ∉ [0x08, 0x09, 0x0a, 0x0c, 0x0d] then .unit c.toNat else .plain c

/-- The pieces that a written string is read as. -/
def piecesOf (s : String) : List Piece := s.toList.map .ofChar

theorem joinPieces?_ofChar_cons (c : Char) (more : List Piece) :
    joinPieces? (.ofChar c :: more) = (joinPieces? more).map (c :: ·) := by
  rw [Piece.ofChar]
  split
  · rename_i hcontrol
    have hhigh : ¬(0xd800 ≤ c.toNat ∧ c.toNat < 0xdc00) := by omega
    have hlow : ¬(0xdc00 ≤ c.toNat ∧ c.toNat < 0xe000) := by omega
    have hhalf : ¬(0xd800 ≤ c.toNat ∧ c.toNat < 0xe000) := by omega
    match more with
    | [] | .plain d :: more =>
      rw [joinPieces?.eq_def]
      simp only [if_neg hhalf, Char.ofNat_toNat]
    | .unit n :: more => rw [joinPieces?, if_neg hhigh, if_neg hlow, Char.ofNat_toNat]
  · rw [joinPieces?]

theorem stringOf?_piecesOf (s : String) : stringOf? (piecesOf s) = some s := by
  have hjoin (text : List Char) : joinPieces? (text.map .ofChar) = some text := by
    induction text with
    | nil => rfl
    | cons c text ih =>
      rw [List.map_cons, joinPieces?_ofChar_cons, ih]
      rfl
  rw [stringOf?, piecesOf, hjoin, Option.map_some, String.ofList_toList]

theorem hexNumber?_hexDigits : ∀ n < 0x20,
    Text.hexNumber? ['0', '0', Text.hexDigit (n / 16), Text.hexDigit (n % 16)] = some n := by
  decide

/-- A character that stands for itself. -/
theorem readPieces_plain {c : Char} (hquote : c ≠ '"')
    (hkept : ¬(decide (c.toNat < 0x20) || decide (c = '\\')) = true) (text : List Char) :
    readPieces (c :: text) =
      (readPieces text).bind fun (pieces, after) => some (.plain c :: pieces, after) := by
  have hsolidus : c ≠ '\\' := by
    rintro rfl
    exact hkept (by decide)
  rw [readPieces.eq_def]
  split
  · contradiction
  · exact absurd (List.cons.inj ‹_›).1 hquote
  · exact absurd (List.cons.inj ‹_›).1 hsolidus
  · exact absurd (List.cons.inj ‹_›).1 hsolidus
  · obtain ⟨rfl, rfl⟩ := List.cons.inj ‹_›
    exact if_neg hkept

/-- A character that is given by a short escape. -/
theorem readPieces_escape {c plain : Char} (hplain : unescape? c = some plain) (text : List Char) :
    readPieces ('\\' :: c :: text) =
      (readPieces text).bind fun (pieces, after) => some (.plain plain :: pieces, after) := by
  have hnumber : c ≠ 'u' := by
    rintro rfl
    exact nomatch hplain
  rw [readPieces.eq_def]
  split
  · contradiction
  · exact absurd (List.cons.inj ‹_›).1 (by decide)
  · exact absurd (List.cons.inj (List.cons.inj ‹_›).2).1 hnumber
  · obtain ⟨rfl, rfl⟩ := List.cons.inj (List.cons.inj ‹_›).2
    rw [hplain]
    rfl
  · rename_i hno heq
    obtain ⟨rfl, rfl⟩ := List.cons.inj heq
    exact absurd rfl (hno c text rfl)

theorem readPieces_escapeChar (c : Char) (text : List Char) :
    readPieces (escapeChar c ++ text) =
      (readPieces text).bind fun (pieces, after) => some (.ofChar c :: pieces, after) := by
  by_cases hquote : c = '"'
  · subst hquote
    rfl
  by_cases hsolidus : c = '\\'
  · subst hsolidus
    rfl
  by_cases hshown : 0x20 ≤ c.toNat
  · have hplain : escapeChar c ++ text = c :: text := by
      rw [escapeChar, if_neg hquote, if_neg hsolidus, if_pos hshown]
      rfl
    have hpiece : Piece.ofChar c = .plain c := if_neg (by omega)
    have hnot : ¬c.toNat < 0x20 := Nat.not_lt_of_le hshown
    rw [hplain, hpiece]
    exact readPieces_plain hquote (by simp [hnot, hsolidus]) text
  by_cases hshort : c.toNat ∈ [0x08, 0x09, 0x0a, 0x0c, 0x0d]
  · have hcode : ∀ n, c.toNat = n → c = Char.ofNat n := by
      rintro n rfl
      exact (Char.ofNat_toNat c).symm
    simp only [List.mem_cons, List.not_mem_nil, or_false] at hshort
    obtain h | h | h | h | h := hshort <;>
      (obtain rfl := hcode _ h; rfl)
  · have hcontrol : c.toNat < 0x20 := Nat.lt_of_not_le hshown
    have hpiece : Piece.ofChar c = .unit c.toNat := if_pos ⟨hcontrol, hshort⟩
    simp only [List.mem_cons, List.not_mem_nil, or_false, not_or] at hshort
    obtain ⟨h8, h9, ha, hc, hd⟩ := hshort
    rw [escapeChar, if_neg hquote, if_neg hsolidus, if_neg hshown, if_neg h8, if_neg h9, if_neg ha,
      if_neg hc, if_neg hd, hpiece]
    simp only [List.cons_append, List.nil_append, readPieces, hexNumber?_hexDigits _ hcontrol]
    rfl

theorem quote_append (s : String) (rest : List Char) :
    quote s ++ rest = '"' :: (s.toList.flatMap escapeChar ++ '"' :: rest) := by
  rw [quote, List.cons_append, List.append_assoc, List.singleton_append]

/-- A string that is written is read again. -/
theorem readPieces_escaped (s : String) (rest : List Char) :
    readPieces (s.toList.flatMap escapeChar ++ '"' :: rest) = some (piecesOf s, rest) := by
  have hread (text : List Char) :
      readPieces (text.flatMap escapeChar ++ '"' :: rest) = some (text.map .ofChar, rest) := by
    induction text with
    | nil => rfl
    | cons c text ih =>
      rw [List.flatMap_cons, List.append_assoc, readPieces_escapeChar, ih]
      rfl
  exact hread s.toList

/-! ## 4. Documents of values -/

mutual
/-- The document that the compact text of a value is read as. Of numbers that are not whole nothing
is said here; `null` stands for them. -/
def Document.ofJson : Json → Document
  | .null => .null
  | .bool b => .bool b
  | .number (.whole n) => .numeral (.ofInt n)
  | .number _ => .null
  | .string s => .string (piecesOf s)
  | .array items => .array (ofItems items)
  | .object fields => .object (ofFields fields)

def Document.ofItems : List Json → List Document
  | [] => []
  | item :: more => ofJson item :: ofItems more

def Document.ofFields : List (String × Json) → List (List Piece × Document)
  | [] => []
  | (key, value) :: more => (piecesOf key, ofJson value) :: ofFields more
end

/-- All numbers in the value are whole. -/
inductive Integral : Json → Prop where
  | null : Integral .null
  | bool (b : Bool) : Integral (.bool b)
  | whole (n : Int) : Integral (.number (.whole n))
  | string (s : String) : Integral (.string s)
  | array {items : List Json} (each : ∀ item ∈ items, Integral item) : Integral (.array items)
  | object {fields : List (String × Json)} (each : ∀ field ∈ fields, Integral field.2) :
      Integral (.object fields)

/-- What can be written and read again as it is: whole numbers that fit 64 bits, all strings,
containers within a depth, and objects with their keys in ascending order. -/
inductive Portable : Nat → Json → Prop where
  | null {depth : Nat} : Portable depth .null
  | bool {depth : Nat} (b : Bool) : Portable depth (.bool b)
  | whole {depth : Nat} {n : Int} (fits : Fits n) : Portable depth (.number (.whole n))
  | string {depth : Nat} (s : String) : Portable depth (.string s)
  | array {depth : Nat} {items : List Json} (each : ∀ item ∈ items, Portable depth item) :
      Portable (depth + 1) (.array items)
  | object {depth : Nat} {fields : List (String × Json)}
      (ascending : (fields.map Prod.fst).Pairwise (· < ·))
      (each : ∀ field ∈ fields, Portable depth field.2) : Portable (depth + 1) (.object fields)

theorem Portable.integral {depth : Nat} {j : Json} (h : Portable depth j) : Integral j := by
  induction h with
  | null => exact .null
  | bool b => exact .bool b
  | whole _ => exact .whole _
  | string s => exact .string s
  | array _ ih => exact .array ih
  | object _ _ ih => exact .object ih

/-! ## 5. Values -/

/-- The text of the value is read as its document, with what follows it left over. -/
def Reads (j : Json) : Prop :=
  ∀ fuel rest, Delimited rest → 2 * j.compact.length ≤ fuel + 1 →
    readValue (fuel + 1) (j.compact ++ rest) = some (.ofJson j, rest)

theorem skipBlanks_cons {c : Char} (h : isBlankChar c = false) (rest : List Char) :
    skipBlanks (c :: rest) = c :: rest := by
  rw [skipBlanks, List.dropWhile_cons_of_neg (by simp [h])]

/-- The text starts with a character that is neither blank nor the end of a container. -/
def Opens (text : List Char) : Prop :=
  ∃ c more, text = c :: more ∧ isBlankChar c = false ∧ c ≠ ']' ∧ c ≠ '}'

theorem Opens.append {text : List Char} (h : Opens text) (rest : List Char) :
    Opens (text ++ rest) := by
  obtain ⟨c, more, rfl, hc⟩ := h
  exact ⟨c, more ++ rest, rfl, hc⟩

theorem Opens.length_pos {text : List Char} (h : Opens text) : 0 < text.length := by
  obtain ⟨c, more, rfl, -⟩ := h
  exact Nat.zero_lt_succ _

theorem Opens.skipBlanks_eq {text : List Char} (h : Opens text) : skipBlanks text = text := by
  obtain ⟨c, more, rfl, hblank, -⟩ := h
  exact skipBlanks_cons hblank more

/-- The first character of a whole number. -/
theorem intText_eq_cons (n : Int) :
    ∃ c more, intText n = c :: more ∧ (c = '-' ∨ c.isDigit = true) := by
  rw [intText]
  split
  · exact ⟨_, _, rfl, .inl rfl⟩
  · have hne : digitsOf n.natAbs ≠ [] := Nat.toDigits_ne_nil
    obtain ⟨d, ds, hds⟩ := List.exists_cons_of_ne_nil hne
    exact ⟨d, ds, hds, .inr (isDigit_of_mem_digitsOf (hds ▸ List.mem_cons_self))⟩

theorem opens_intText (n : Int) : Opens (intText n) := by
  obtain ⟨c, more, htext, hc⟩ := intText_eq_cons n
  have hnot : ∀ d : Char, d ≠ '-' → d.isDigit = false → c ≠ d := by
    rintro d hminus hdigit rfl
    obtain hc | hc := hc
    · exact hminus hc
    · rw [hc] at hdigit
      exact nomatch hdigit
  refine ⟨c, more, htext, ?_, hnot _ (by decide) (by decide), hnot _ (by decide) (by decide)⟩
  simp only [isBlankChar, Bool.or_eq_false_iff, decide_eq_false_iff_not]
  exact ⟨⟨⟨hnot _ (by decide) (by decide), hnot _ (by decide) (by decide)⟩,
    hnot _ (by decide) (by decide)⟩, hnot _ (by decide) (by decide)⟩

theorem Integral.opens {j : Json} (h : Integral j) : Opens j.compact := by
  cases h with
  | null => exact ⟨_, _, rfl, by decide⟩
  | bool b => cases b <;> exact ⟨_, _, rfl, by decide⟩
  | whole _ => exact opens_intText _
  | string s => exact ⟨_, _, rfl, by decide⟩
  | @array items _ => cases items <;> exact ⟨_, _, rfl, by decide⟩
  | @object fields _ => cases fields <;> exact ⟨_, _, rfl, by decide⟩

/-- What starts with a minus or a digit is a numeral. -/
theorem readValue_numeral {c : Char} (hc : c = '-' ∨ c.isDigit = true) (fuel : Nat)
    (text : List Char) : readValue (fuel + 1) (c :: text) =
      (readNumeral (c :: text)).map fun (n, after) => (.numeral n, after) := by
  rw [readValue.eq_def]
  simp only
  split
  all_goals first
    | (obtain ⟨rfl, -⟩ := List.cons.inj ‹_›; exact absurd hc (by decide))
    | skip
  cases readNumeral (c :: text) <;> rfl

theorem reads_null : Reads .null := fun _ _ _ _ => rfl

theorem reads_bool (b : Bool) : Reads (.bool b) := by
  intro fuel rest _ _
  cases b <;> rfl

theorem reads_whole (n : Int) : Reads (.number (.whole n)) := by
  intro fuel rest hrest _
  obtain ⟨c, more, htext, hc⟩ := intText_eq_cons n
  have hread := readNumeral_intText hrest n
  show readValue (fuel + 1) (intText n ++ rest) = _
  rw [htext, List.cons_append] at hread ⊢
  rw [readValue_numeral hc, hread]
  rfl

theorem reads_string (s : String) : Reads (.string s) := by
  intro fuel rest _ _
  rw [compact, quote_append, readValue, readPieces_escaped]
  rfl

/-! ## 6. Containers -/

theorem delimited_cons {c : Char} (h : c = ',' ∨ c = ']' ∨ c = '}') (rest : List Char) :
    Delimited (c :: rest) := by
  rintro d ⟨⟩
  exact h

/-- The items of an array are read one after the other, as many as there are. -/
theorem readItems_compact {item : Json} {more : List Json}
    (h : ∀ i ∈ item :: more, Reads i ∧ Opens i.compact) (rest : List Char) (fuel : Nat)
    (hfuel : 2 * (item.compact ++ compactItems more).length ≤ fuel + 1) :
    readItems (fuel + 2) (item.compact ++ (compactItems more ++ rest)) =
      some (Document.ofItems (item :: more), rest) := by
  induction more generalizing item fuel with
  | nil =>
    rw [List.length_append] at hfuel
    have hread := (h item List.mem_cons_self).1 fuel (']' :: rest)
      (delimited_cons (by decide) rest) (by omega)
    rw [readItems, compactItems, List.singleton_append, hread]
    rfl
  | cons next more ih =>
    obtain ⟨hitem, hrest⟩ := List.forall_mem_cons.mp h
    simp only [compactItems, List.length_append, List.length_cons] at hfuel
    have hcomma : isBlankChar ',' = false := by decide
    have hnext : Opens (next.compact ++ (compactItems more ++ rest)) :=
      (hrest next List.mem_cons_self).2.append _
    have hread := hitem.1 fuel (',' :: (next.compact ++ (compactItems more ++ rest)))
      (delimited_cons (by decide) _) (by omega)
    -- A step takes one unit of fuel, and the comma alone stands for two.
    obtain ⟨fuel, rfl⟩ : ∃ n, fuel = n + 1 := ⟨fuel - 1, by omega⟩
    have hreads := ih hrest fuel (by rw [List.length_append]; omega)
    rw [readItems, compactItems, List.cons_append, List.append_assoc, hread]
    simp only [Option.bind_eq_bind, Option.bind_some, skipBlanks_cons hcomma,
      hnext.skipBlanks_eq, hreads, Document.ofItems]

theorem opens_quote (s : String) : Opens (quote s) := ⟨_, _, rfl, by decide⟩

/-- The fields of an object are read one after the other, in the order in which they stand. -/
theorem readFields_compact {key : String} {value : Json} {more : List (String × Json)}
    (h : ∀ field ∈ (key, value) :: more, Reads field.2 ∧ Opens field.2.compact)
    (rest : List Char) (fuel : Nat)
    (hfuel : 2 * (quote key ++ ':' :: (value.compact ++ compactFields more)).length ≤ fuel + 1) :
    readFields (fuel + 2) (quote key ++ ':' :: (value.compact ++ (compactFields more ++ rest))) =
      some (Document.ofFields ((key, value) :: more), rest) := by
  have hcolon : isBlankChar ':' = false := by decide
  induction more generalizing key value fuel with
  | nil =>
    simp only [List.length_append, List.length_cons] at hfuel
    obtain ⟨hreads, hopens⟩ := h (key, value) List.mem_cons_self
    have hread := hreads fuel ('}' :: rest) (delimited_cons (by decide) rest)
      (by dsimp only; omega)
    have hbrace : isBlankChar '}' = false := by decide
    rw [compactFields, List.singleton_append, quote_append, readFields]
    simp only [Option.bind_eq_bind, Option.bind_some, readPieces_escaped, skipBlanks_cons hcolon,
      (hopens.append _).skipBlanks_eq, hread, skipBlanks_cons hbrace, Document.ofFields]
  | cons next more ih =>
    obtain ⟨nextKey, nextValue⟩ := next
    obtain ⟨⟨hreads, hopens⟩, hrest⟩ := List.forall_mem_cons.mp h
    simp only [compactFields, List.length_append, List.length_cons] at hfuel
    have hcomma : isBlankChar ',' = false := by decide
    have hnext := (opens_quote nextKey).append
      (':' :: (nextValue.compact ++ (compactFields more ++ rest)))
    have hread := hreads fuel
      (',' :: (quote nextKey ++ ':' :: (nextValue.compact ++ (compactFields more ++ rest))))
      (delimited_cons (by decide) _) (by dsimp only; omega)
    obtain ⟨fuel, rfl⟩ : ∃ n, fuel = n + 1 := ⟨fuel - 1, by omega⟩
    have hmore := ih hrest fuel (by
      simp only [List.length_append, List.length_cons]
      omega)
    simp only [compactFields, List.cons_append, List.append_assoc]
    rw [quote_append, readFields]
    simp only [Option.bind_eq_bind, Option.bind_some, readPieces_escaped, skipBlanks_cons hcolon,
      (hopens.append _).skipBlanks_eq, hread, skipBlanks_cons hcomma, hnext.skipBlanks_eq, hmore,
      Document.ofFields]

theorem readValue_array (fuel : Nat) {text : List Char} (h : Opens text) :
    readValue (fuel + 1) ('[' :: text) =
      (readItems fuel text).map fun (items, after) => (.array items, after) := by
  obtain ⟨c, more, rfl, hblank, hbracket, -⟩ := h
  rw [readValue, skipBlanks_cons hblank]
  split
  · obtain ⟨rfl, -⟩ := List.cons.inj ‹_›
    exact absurd rfl hbracket
  · cases readItems fuel (c :: more) <;> rfl

theorem readValue_object (fuel : Nat) {text : List Char} (h : Opens text) :
    readValue (fuel + 1) ('{' :: text) =
      (readFields fuel text).map fun (fields, after) => (.object fields, after) := by
  obtain ⟨c, more, rfl, hblank, -, hbrace⟩ := h
  rw [readValue, skipBlanks_cons hblank]
  split
  · obtain ⟨rfl, -⟩ := List.cons.inj ‹_›
    exact absurd rfl hbrace
  · cases readFields fuel (c :: more) <;> rfl

theorem reads_array {items : List Json} (h : ∀ item ∈ items, Reads item ∧ Opens item.compact) :
    Reads (.array items) := by
  intro fuel rest _ hfuel
  cases items with
  | nil => rfl
  | cons item more =>
    simp only [compact, List.length_cons] at hfuel
    have hitem := (h item List.mem_cons_self).2.length_pos
    obtain ⟨fuel, rfl⟩ : ∃ n, fuel = n + 2 := ⟨fuel - 2, by
      rw [List.length_append] at hfuel
      omega⟩
    have hread := readItems_compact h rest fuel (by omega)
    have hopens := (h item List.mem_cons_self).2.append (compactItems more ++ rest)
    rw [compact, List.cons_append, List.append_assoc, readValue_array _ hopens, hread]
    rfl

theorem reads_object {fields : List (String × Json)}
    (h : ∀ field ∈ fields, Reads field.2 ∧ Opens field.2.compact) : Reads (.object fields) := by
  intro fuel rest _ hfuel
  cases fields with
  | nil => rfl
  | cons field more =>
    obtain ⟨key, value⟩ := field
    simp only [compact, List.length_cons] at hfuel
    obtain ⟨fuel, rfl⟩ : ∃ n, fuel = n + 2 := ⟨fuel - 2, by
      simp only [List.length_append, List.length_cons] at hfuel
      omega⟩
    have hread := readFields_compact h rest fuel (by omega)
    have hopens := (opens_quote key).append
      (':' :: (value.compact ++ (compactFields more ++ rest)))
    simp only [compact, List.cons_append, List.append_assoc]
    rw [readValue_object _ hopens, hread]
    rfl

theorem Integral.reads {j : Json} (h : Integral j) : Reads j := by
  induction h with
  | null => exact reads_null
  | bool b => exact reads_bool b
  | whole n => exact reads_whole n
  | string s => exact reads_string s
  | array each ih => exact reads_array fun item hitem => ⟨ih item hitem, (each item hitem).opens⟩
  | object each ih =>
    exact reads_object fun field hfield => ⟨ih field hfield, (each field hfield).opens⟩

theorem Document.ofChars?_compact {j : Json} (h : Integral j) :
    ofChars? j.compact = some (.ofJson j) := by
  have hempty : Delimited [] := fun c hc => nomatch hc
  have hread := h.reads (2 * j.compact.length + 1) [] hempty (by omega)
  rw [List.append_nil] at hread
  rw [ofChars?, h.opens.skipBlanks_eq, hread]
  rfl

/-! ## 7. The order of fields -/

theorem insertField_of_forall_lt {key : String} {sorted : List (String × Json)}
    (h : ∀ field ∈ sorted, field.1 < key) (value : Json) :
    insertField key value sorted = sorted ++ [(key, value)] := by
  induction sorted with
  | nil => rfl
  | cons field sorted ih =>
    obtain ⟨hfirst, hrest⟩ := List.forall_mem_cons.mp h
    have hne : key ≠ field.1 := by
      rintro rfl
      exact String.lt_irrefl _ hfirst
    rw [insertField, if_neg hne, if_neg (String.lt_asymm hfirst), ih hrest]
    rfl

/-- Fields in ascending order stay as they are. -/
theorem sortFields_of_ascending {fields : List (String × Json)}
    (h : (fields.map Prod.fst).Pairwise (· < ·)) : sortFields fields = fields := by
  have hfold : ∀ (sorted : List (String × Json)),
      ((sorted ++ fields).map Prod.fst).Pairwise (· < ·) →
      fields.foldl (fun sorted field => insertField field.1 field.2 sorted) sorted =
        sorted ++ fields := by
    clear h
    induction fields with
    | nil => exact fun sorted _ => (List.append_nil sorted).symm
    | cons field fields ih =>
      intro sorted h
      have hlast : ∀ other ∈ sorted, other.1 < field.1 := by
        intro other hother
        rw [List.map_append, List.pairwise_append] at h
        exact h.2.2 _ (List.mem_map_of_mem hother) _ List.mem_cons_self
      rw [List.append_cons] at h
      rw [List.foldl_cons, insertField_of_forall_lt hlast, ih _ h, List.append_assoc]
      rfl
  exact hfold [] h

/-! ## 8. Free-form values -/

theorem Document.values?_ofItems {depth : Nat} {items : List Json}
    (h : ∀ item ∈ items, (ofJson item).value? depth = some item) :
    values? depth (ofItems items) = some items := by
  induction items with
  | nil => rfl
  | cons item items ih =>
    obtain ⟨hitem, hitems⟩ := List.forall_mem_cons.mp h
    simp only [ofItems, values?, hitem, ih hitems, Option.bind_eq_bind, Option.bind_some]

theorem Document.fields?_ofFields {depth : Nat} {fields : List (String × Json)}
    (h : ∀ field ∈ fields, (ofJson field.2).value? depth = some field.2) :
    fields? depth (ofFields fields) = some fields := by
  induction fields with
  | nil => rfl
  | cons field fields ih =>
    obtain ⟨hfield, hfields⟩ := List.forall_mem_cons.mp h
    simp only [ofFields, fields?, stringOf?_piecesOf, hfield, ih hfields, Option.bind_eq_bind,
      Option.bind_some]

theorem Portable.value?_ofJson {depth : Nat} {j : Json} (h : Portable depth j) :
    (Document.ofJson j).value? depth = some j := by
  induction h with
  | null => rfl
  | bool b => rfl
  | whole fits =>
    rw [Document.ofJson, Document.value?, number?_ofInt fits]
    rfl
  | string s =>
    rw [Document.ofJson, Document.value?, stringOf?_piecesOf]
    rfl
  | array _ ih =>
    simp only [Document.ofJson, Document.value?, Document.values?_ofItems ih, Option.map_some]
  | object ascending _ ih =>
    simp only [Document.ofJson, Document.value?, Document.fields?_ofFields ih, Option.map_some,
      sortFields_of_ascending ascending]

/-- The compact text of the value is read as the value. -/
def ReadsBack (j : Json) : Prop := parse? j.compact = some j

theorem readsBack_of_portable {j : Json} (h : Portable maxDepth j) : ReadsBack j := by
  rw [ReadsBack, parse?, Document.ofChars?_compact h.integral]
  exact h.value?_ofJson

end GuidedSynthesis.Json
