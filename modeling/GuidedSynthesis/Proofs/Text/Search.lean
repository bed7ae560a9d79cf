import GuidedSynthesis.Text.Search
import Mathlib.Data.List.Infix
/-!
Places at which one text stands in another.

`Text.splitFirst?` and `Text.splitLast?` cut at the first and at the last of these places
(`splitFirst?_eq_some_iff`, `splitLast?_eq_some_iff`) and fail if there is none. Occurrences may
overlap, so that a pattern stands between two texts does not yet make that place the first or the
last one. It is the first one if the pattern does not stand in the text before and has no border,
that is, if none of its ends is one of its beginnings (`firstAt_of_unbordered`). It is the last one
if the pattern does not stand in what follows its own first character (`lastAt_of_not_infix`). So a
text that is put where such a pattern stands first stands there unchanged, even if the pattern
stands in it (`replaceFirst_append`).
-/

namespace GuidedSynthesis.Text

variable {p s before after : List Char} {i j : Nat}

/-! ## 1. Places -/

/-- The pattern stands in the text from a place on. -/
def StandsAt (p s : List Char) (i : Nat) : Prop := p <+: s.drop i

/-- The first of the places at which the pattern stands. -/
def FirstAt (p s : List Char) (i : Nat) : Prop := StandsAt p s i ∧ ∀ j < i, ¬ StandsAt p s j

/-- The last of the places at which the pattern stands. -/
def LastAt (p s : List Char) (i : Nat) : Prop := StandsAt p s i ∧ ∀ j, i < j → ¬ StandsAt p s j

theorem StandsAt.isInfix (h : StandsAt p s i) : p <:+: s :=
  List.IsPrefix.isInfix h |>.trans (List.drop_suffix i s).isInfix

theorem standsAt_append (before p after : List Char) :
    StandsAt p (before ++ p ++ after) before.length := by
  rw [StandsAt, List.append_assoc, List.drop_left]
  exact List.prefix_append p after

/-- A place beyond a first part is a place in the rest. -/
theorem standsAt_append_iff (first : List Char) (h : first.length ≤ i) :
    StandsAt p (first ++ s) i ↔ StandsAt p s (i - first.length) := by
  rw [StandsAt, List.drop_append, List.drop_of_length_le h, List.nil_append, StandsAt]

/-- What comes before a text does not change which place is the last one. -/
theorem LastAt.append_left (h : LastAt p s i) (first : List Char) :
    LastAt p (first ++ s) (first.length + i) := by
  refine ⟨(standsAt_append_iff first (Nat.le_add_right _ i)).mpr ?_, ?_⟩
  · rw [Nat.add_sub_cancel_left]
    exact h.1
  · intro j hj hstands
    have hlater := (standsAt_append_iff first (by omega)).mp hstands
    exact h.2 (j - first.length) (by omega) hlater

/-- Where a pattern stands there is room for it. -/
theorem StandsAt.add_length_le (h : StandsAt p s i) (hp : p ≠ []) : i + p.length ≤ s.length := by
  have hlength := h.length_le
  have hpos := List.length_pos_iff.mpr hp
  rw [List.length_drop] at hlength
  omega

theorem FirstAt.eq (hi : FirstAt p s i) (hj : FirstAt p s j) : i = j := by
  obtain h | h | h := Nat.lt_trichotomy i j
  · exact absurd hi.1 (hj.2 i h)
  · exact h
  · exact absurd hj.1 (hi.2 j h)

theorem LastAt.eq (hi : LastAt p s i) (hj : LastAt p s j) : i = j := by
  obtain h | h | h := Nat.lt_trichotomy i j
  · exact absurd hj.1 (hi.2 j h)
  · exact h
  · exact absurd hi.1 (hj.2 i h)

/-! ## 2. Cutting -/

theorem afterPrefix?_eq_none_iff : afterPrefix? p s = none ↔ ¬ p <+: s := by
  constructor
  · rintro h ⟨rest, rfl⟩
    rw [afterPrefix?_append] at h
    exact nomatch h
  · intro h
    match hrest : afterPrefix? p s with
    | none => rfl
    | some rest => exact absurd ⟨rest, (afterPrefix?_eq_some hrest).symm⟩ h

theorem splitFirst?_eq_none_iff : splitFirst? p s = none ↔ ¬ p <:+: s := by
  induction s with
  | nil => rw [splitFirst?, Option.map_eq_none_iff, afterPrefix?_eq_none_iff, List.prefix_nil,
      List.infix_nil]
  | cons c s ih =>
    rw [splitFirst?, List.infix_cons_iff, not_or, ← afterPrefix?_eq_none_iff, ← ih]
    cases afterPrefix? p (c :: s) <;> simp

theorem splitLast?_eq_none_iff : splitLast? p s = none ↔ ¬ p <:+: s := by
  induction s with
  | nil => rw [splitLast?, Option.map_eq_none_iff, afterPrefix?_eq_none_iff, List.prefix_nil,
      List.infix_nil]
  | cons c s ih =>
    rw [splitLast?, List.infix_cons_iff, not_or, ← afterPrefix?_eq_none_iff, ← ih]
    cases splitLast? p s <;> simp

theorem not_standsAt_of_splitFirst? (h : splitFirst? p s = some (before, after)) :
    ∀ j < before.length, ¬ StandsAt p s j := by
  induction s generalizing before with
  | nil =>
    obtain ⟨rest, -, heq⟩ := Option.map_eq_some_iff.mp h
    cases heq
    exact fun j hj => absurd hj (Nat.not_lt_zero j)
  | cons c s ih =>
    rw [splitFirst?] at h
    cases hhere : afterPrefix? p (c :: s) with
    | some rest =>
      rw [hhere] at h
      cases h
      exact fun j hj => absurd hj (Nat.not_lt_zero j)
    | none =>
      rw [hhere] at h
      obtain ⟨⟨before', after'⟩, hrest, heq⟩ := Option.map_eq_some_iff.mp h
      cases heq
      intro j hj
      cases j with
      | zero => exact afterPrefix?_eq_none_iff.mp hhere
      | succ j => exact ih hrest j (Nat.lt_of_succ_lt_succ hj)

theorem not_standsAt_of_splitLast? (hp : p ≠ []) (h : splitLast? p s = some (before, after)) :
    ∀ j, before.length < j → ¬ StandsAt p s j := by
  induction s generalizing before with
  | nil =>
    obtain ⟨rest, hrest, -⟩ := Option.map_eq_some_iff.mp h
    have hnil := afterPrefix?_eq_some hrest
    exact absurd (List.append_eq_nil_iff.mp hnil.symm).1 hp
  | cons c s ih =>
    rw [splitLast?] at h
    intro j hj
    cases j with
    | zero => exact absurd hj (Nat.not_lt_zero _)
    | succ j =>
      cases hlater : splitLast? p s with
      | some parts =>
        rw [hlater] at h
        cases h
        exact ih hlater j (Nat.lt_of_succ_lt_succ hj)
      | none =>
        intro hstands
        exact splitLast?_eq_none_iff.mp hlater (StandsAt.isInfix (i := j) hstands)

/-- What lies before a pattern is known by its length. -/
theorem eq_of_append_eq_append {before' after' : List Char}
    (h : before ++ p ++ after = before' ++ p ++ after') (hlength : before.length = before'.length) :
    before = before' ∧ after = after' := by
  rw [List.append_assoc, List.append_assoc] at h
  obtain ⟨hbefore, hrest⟩ := List.append_inj h hlength
  exact ⟨hbefore, List.append_cancel_left hrest⟩

/-- A search that cuts at a place of which there is one at most, and fails only where the pattern
does not stand, cuts wherever that place is. -/
theorem cut_eq_some_iff {cut : Option (List Char × List Char)} {Place : Nat → Prop}
    (hnone : cut = none → ¬ p <:+: s)
    (hsome : ∀ before after, cut = some (before, after) →
      s = before ++ p ++ after ∧ Place before.length)
    (hstands : ∀ i, Place i → StandsAt p s i) (hone : ∀ i j, Place i → Place j → i = j) :
    cut = some (before, after) ↔ s = before ++ p ++ after ∧ Place before.length := by
  constructor
  · exact hsome before after
  · rintro ⟨hs, hplace⟩
    cases cut with
    | none => exact absurd (hstands _ hplace).isInfix (hnone rfl)
    | some parts =>
      obtain ⟨hs', hplace'⟩ := hsome parts.1 parts.2 rfl
      obtain ⟨rfl, rfl⟩ := eq_of_append_eq_append (hs.symm.trans hs') (hone _ _ hplace hplace')
      rfl

theorem splitFirst?_eq_some_iff : splitFirst? p s = some (before, after) ↔
    s = before ++ p ++ after ∧ FirstAt p s before.length := by
  refine cut_eq_some_iff splitFirst?_eq_none_iff.mp ?_ (fun _ h => h.1) fun _ _ => FirstAt.eq
  intro before after h
  obtain rfl := splitFirst?_append h
  exact ⟨rfl, standsAt_append before p after, not_standsAt_of_splitFirst? h⟩

theorem splitLast?_eq_some_iff (hp : p ≠ []) : splitLast? p s = some (before, after) ↔
    s = before ++ p ++ after ∧ LastAt p s before.length := by
  refine cut_eq_some_iff splitLast?_eq_none_iff.mp ?_ (fun _ h => h.1) fun _ _ => LastAt.eq
  intro before after h
  obtain rfl := splitLast?_append h
  exact ⟨rfl, standsAt_append before p after, not_standsAt_of_splitLast? hp h⟩

/-! ## 3. Overlaps -/

/-- No end of the pattern, but for the whole of it, is one of its beginnings. -/
def Unbordered (p : List Char) : Prop := ∀ k < p.length, 0 < k → ¬ p.drop k <+: p

instance (p : List Char) : Decidable (Unbordered p) :=
  inferInstanceAs (Decidable (∀ k < p.length, 0 < k → ¬ p.drop k <+: p))

/-- A pattern without border that stands earlier stands in the text before. -/
theorem firstAt_of_unbordered (hp : Unbordered p) (hbefore : ¬ p <:+: before) (after : List Char) :
    FirstAt p (before ++ p ++ after) before.length := by
  refine ⟨standsAt_append before p after, ?_⟩
  intro j hj hstands
  have hmeets : p <+: before.drop j ++ (p ++ after) := by
    rw [← List.drop_append_of_le_length (Nat.le_of_lt hj), ← List.append_assoc]
    exact hstands
  obtain hinside | hacross := List.prefix_or_prefix_of_prefix hmeets (List.prefix_append _ _)
  · exact hbefore (hinside.isInfix.trans (List.drop_suffix j before).isInfix)
  · -- the pattern starts before its place and ends after it, so its end is a border
    obtain ⟨last, rfl⟩ := hacross
    have hlast : last <+: before.drop j ++ last ++ after :=
      (List.prefix_append_right_inj _).mp hmeets
    have hborder : last <+: before.drop j ++ last :=
      List.prefix_of_prefix_length_le hlast (List.prefix_append _ after) (by simp)
    cases last with
    | nil =>
      rw [List.append_nil] at hbefore
      exact hbefore (List.drop_suffix j before).isInfix
    | cons c last =>
      refine hp (before.drop j).length ?_ ?_ ?_
      · simp
      · rw [List.length_drop]
        omega
      · rw [List.drop_left]
        exact hborder

/-- A pattern that stands later stands in what follows its own first character. -/
theorem lastAt_of_not_infix (hafter : ¬ p <:+: p.tail ++ after) (hp : p ≠ [])
    (before : List Char) : LastAt p (before ++ p ++ after) before.length := by
  refine ⟨standsAt_append before p after, ?_⟩
  intro j hj hstands
  rw [List.append_assoc, standsAt_append_iff before (Nat.le_of_lt hj)] at hstands
  obtain ⟨k, hk⟩ : ∃ k, j - before.length = k + 1 := ⟨j - before.length - 1, by omega⟩
  rw [hk] at hstands
  cases p with
  | nil => exact hp rfl
  | cons c p => exact hafter (StandsAt.isInfix (i := k) hstands)

/-! ## 4. Replacing -/

theorem replaceFirst_append {pattern before : String} (hpattern : Unbordered pattern.toList)
    (hbefore : ¬ pattern.toList <:+: before.toList) (replacement after : String) :
    replaceFirst pattern replacement (before ++ pattern ++ after) =
      before ++ replacement ++ after := by
  have hcut : splitFirst? pattern.toList (before ++ pattern ++ after).toList =
      some (before.toList, after.toList) := by
    rw [splitFirst?_eq_some_iff, String.toList_append, String.toList_append]
    exact ⟨rfl, firstAt_of_unbordered hpattern hbefore after.toList⟩
  rw [replaceFirst, hcut]
  show String.ofList before.toList ++ replacement ++ String.ofList after.toList = _
  rw [String.ofList_toList, String.ofList_toList]

end GuidedSynthesis.Text
