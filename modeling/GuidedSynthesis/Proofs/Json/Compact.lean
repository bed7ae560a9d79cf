import GuidedSynthesis.Json.Printer
/-!
The characters of compact JSON text.

Control characters are escaped in strings and stand nowhere else, so the compact text of a value has
none (`uncontrolled_compact`) and is on one line.
-/

namespace GuidedSynthesis

/-! ## 1. Texts without control characters -/

/-- No character of the text is a control character below U+0020. -/
def Uncontrolled (s : List Char) : Prop := ∀ c ∈ s, 0x20 ≤ c.toNat

instance (s : List Char) : Decidable (Uncontrolled s) :=
  List.decidableBAll (fun c : Char => 0x20 ≤ c.toNat) s

namespace Uncontrolled

theorem nil : Uncontrolled [] := fun _ hc => nomatch hc

@[simp] theorem cons_iff {c : Char} {s : List Char} :
    Uncontrolled (c :: s) ↔ 0x20 ≤ c.toNat ∧ Uncontrolled s :=
  List.forall_mem_cons

@[simp] theorem append_iff {s t : List Char} :
    Uncontrolled (s ++ t) ↔ Uncontrolled s ∧ Uncontrolled t :=
  List.forall_mem_append

theorem of_subset {s t : List Char} (ht : Uncontrolled t) (h : s ⊆ t) : Uncontrolled s :=
  fun c hc => ht c (h hc)

theorem replicate {c : Char} (h : 0x20 ≤ c.toNat) (n : Nat) : Uncontrolled (List.replicate n c) :=
  fun _ hd => (List.eq_of_mem_replicate hd).symm ▸ h

theorem not_mem {s : List Char} (h : Uncontrolled s) {c : Char} (hc : c.toNat < 0x20) : c ∉ s :=
  fun hm => Nat.not_le_of_lt hc (h c hm)

end Uncontrolled

/-! ## 2. Numbers -/

namespace Decimal

theorem uncontrolled_digitsOf (n : Nat) : Uncontrolled (digitsOf n) := by
  intro c hc
  have hdigit : c.isDigit = true := Nat.isDigit_of_mem_toDigits (by decide) (by decide) hc
  simp only [Char.isDigit, Bool.and_eq_true, decide_eq_true_eq] at hdigit
  have hzero : '0'.toNat ≤ c.toNat := UInt32.le_iff_toNat_le.mp hdigit.1
  exact Nat.le_trans (by decide) hzero

theorem uncontrolled_intText (n : Int) : Uncontrolled (intText n) := by
  rw [intText]
  split
  · exact Uncontrolled.cons_iff.mpr ⟨by decide, uncontrolled_digitsOf _⟩
  · exact uncontrolled_digitsOf _

theorem uncontrolled_positional {digits : List Char} (h : Uncontrolled digits) (e : Int) :
    Uncontrolled (positional digits e) := by
  have hzeros (n : Nat) : Uncontrolled (List.replicate n '0') := .replicate (by decide) n
  rw [positional]
  split
  · have hzero : Uncontrolled "0.".toList := by decide
    exact Uncontrolled.append_iff.mpr ⟨Uncontrolled.append_iff.mpr ⟨hzero, hzeros _⟩, h⟩
  · have hpadded (n : Nat) := Uncontrolled.append_iff.mpr ⟨h, hzeros n⟩
    refine Uncontrolled.append_iff.mpr ⟨(hpadded _).of_subset (List.take_subset _ _), ?_⟩
    refine Uncontrolled.cons_iff.mpr ⟨by decide, ?_⟩
    split
    · exact Uncontrolled.cons_iff.mpr ⟨by decide, .nil⟩
    · exact (hpadded _).of_subset (List.drop_subset _ _)

theorem uncontrolled_scientific {digits : List Char} (h : Uncontrolled digits) (e : Int) :
    Uncontrolled (scientific digits e) := by
  have hexponent : Uncontrolled ('e' :: (if e < 0 then '-' else '+') :: digitsOf e.natAbs) := by
    refine Uncontrolled.cons_iff.mpr ⟨by decide, Uncontrolled.cons_iff.mpr ⟨?_, ?_⟩⟩
    · split <;> decide
    · exact uncontrolled_digitsOf _
  rw [scientific.eq_def]
  refine Uncontrolled.append_iff.mpr ⟨?_, hexponent⟩
  split
  · exact .nil
  · exact h
  · rw [Uncontrolled.cons_iff] at h ⊢
    exact ⟨h.1, Uncontrolled.cons_iff.mpr ⟨by decide, h.2⟩⟩

theorem uncontrolled_text (format : Format) (style : Style) (negative : Bool) (significand : Nat)
    (exponent : Int) : Uncontrolled (format.text style negative significand exponent) := by
  have hbody : Uncontrolled (if significand = 0 then "0.0".toList else
      let d := format.shortest style.tie significand exponent
      let digits := digitsOf d.digits
      let e := d.exponent + digits.length - 1
      if style.isPositional e then positional digits e else scientific digits e) := by
    split
    · decide
    · show Uncontrolled (if _ then positional _ _ else scientific _ _)
      split
      · exact uncontrolled_positional (uncontrolled_digitsOf _) _
      · exact uncontrolled_scientific (uncontrolled_digitsOf _) _
  rw [Format.text]
  split
  · exact Uncontrolled.cons_iff.mpr ⟨by decide, hbody⟩
  · exact hbody

end Decimal

/-! ## 3. Values -/

namespace Json

theorem uncontrolled_binaryText (format : Decimal.Format) (style : Decimal.Style)
    (x : Decimal.Binary) : Uncontrolled (binaryText format style x) := by
  cases x with
  | finite negative significand exponent => exact Decimal.uncontrolled_text _ _ _ _ _
  | infinity _ | nan =>
    show Uncontrolled "null".toList
    decide

theorem uncontrolled_number (n : Number) : Uncontrolled n.text := by
  cases n with
  | whole n => exact Decimal.uncontrolled_intText n
  | double x | single x => exact uncontrolled_binaryText _ _ x

theorem le_toNat_hexDigit : ∀ n < 16, 0x20 ≤ (Text.hexDigit n).toNat := by decide

theorem uncontrolled_escapeChar (c : Char) : Uncontrolled (escapeChar c) := by
  rw [escapeChar]
  split
  · decide
  split
  · decide
  split
  · rename_i hshown
    exact Uncontrolled.cons_iff.mpr ⟨hshown, .nil⟩
  rename_i hcontrol
  iterate 5
    split
    · decide
  have hhigh := le_toNat_hexDigit (c.toNat / 16) (by omega)
  have hlow := le_toNat_hexDigit (c.toNat % 16) (by omega)
  have hmark : Uncontrolled ['\\', 'u', '0', '0'] := by decide
  exact Uncontrolled.append_iff.mpr ⟨hmark,
    Uncontrolled.cons_iff.mpr ⟨hhigh, Uncontrolled.cons_iff.mpr ⟨hlow, .nil⟩⟩⟩

theorem uncontrolled_quote (s : String) : Uncontrolled (quote s) := by
  have hescaped : Uncontrolled (s.toList.flatMap escapeChar) := by
    intro c hc
    obtain ⟨d, -, hd⟩ := List.mem_flatMap.mp hc
    exact uncontrolled_escapeChar d c hd
  have hmark : 0x20 ≤ '"'.toNat := by decide
  exact Uncontrolled.cons_iff.mpr ⟨hmark, Uncontrolled.append_iff.mpr
    ⟨hescaped, Uncontrolled.cons_iff.mpr ⟨hmark, .nil⟩⟩⟩

theorem uncontrolled_field {value : List Char} {more : List Char} (hvalue : Uncontrolled value)
    (hmore : Uncontrolled more) (key : String) :
    Uncontrolled (quote key ++ ':' :: (value ++ more)) :=
  Uncontrolled.append_iff.mpr ⟨uncontrolled_quote key, Uncontrolled.cons_iff.mpr ⟨by decide,
    Uncontrolled.append_iff.mpr ⟨hvalue, hmore⟩⟩⟩

mutual
/-- The compact text of a value has no control character, a line break least of all. -/
theorem uncontrolled_compact : ∀ j : Json, Uncontrolled j.compact
  | .null => by decide
  | .bool true => by decide
  | .bool false => by decide
  | .number n => uncontrolled_number n
  | .string s => uncontrolled_quote s
  | .array [] => by decide
  | .array (item :: more) =>
    Uncontrolled.cons_iff.mpr ⟨by decide, Uncontrolled.append_iff.mpr
      ⟨uncontrolled_compact item, uncontrolled_compactItems more⟩⟩
  | .object [] => by decide
  | .object ((key, value) :: more) =>
    Uncontrolled.cons_iff.mpr ⟨by decide,
      uncontrolled_field (uncontrolled_compact value) (uncontrolled_compactFields more) key⟩

theorem uncontrolled_compactItems : ∀ items : List Json, Uncontrolled (compactItems items)
  | [] => by decide
  | item :: more =>
    Uncontrolled.cons_iff.mpr ⟨by decide, Uncontrolled.append_iff.mpr
      ⟨uncontrolled_compact item, uncontrolled_compactItems more⟩⟩

theorem uncontrolled_compactFields :
    ∀ fields : List (String × Json), Uncontrolled (compactFields fields)
  | [] => by decide
  | (key, value) :: more =>
    Uncontrolled.cons_iff.mpr ⟨by decide,
      uncontrolled_field (uncontrolled_compact value) (uncontrolled_compactFields more) key⟩
end

end Json

end GuidedSynthesis
