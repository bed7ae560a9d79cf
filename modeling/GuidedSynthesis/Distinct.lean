/-!
The first of several things that have one key.

`firstsFrom key seen xs` passes over what has a key in `seen` or a key that stood earlier in the
list. The result is a sublist (`firstsFrom_sublist`) of what is found first for its own key
(`mem_firstsFrom_iff`), the keys differ from each other and from those in `seen`
(`nodup_firstsFrom`), and no key is lost (`mem_keys_firstsFrom`). What has been seen is left out and
changes nothing else (`firstsFrom_eq_filter`), so of two lists one after the other the second one
adds what bears a key that is new (`firstsBy_append`). To pass over things twice is to pass over them
once with all that has been seen (`firstsFrom_firstsFrom`), and what is found under a key stays what
is found under it (`find?_firstsFrom`).
-/

namespace GuidedSynthesis

variable {α κ : Type} [DecidableEq κ]

def firstsFrom (key : α → κ) (seen : List κ) : List α → List α
  | [] => []
  | a :: more =>
    if key a ∈ seen then firstsFrom key seen more
    else a :: firstsFrom key (key a :: seen) more

/-- The first of those with one key, in order. -/
def firstsBy (key : α → κ) (xs : List α) : List α := firstsFrom key [] xs

theorem firstsFrom_sublist (key : α → κ) (seen : List κ) (xs : List α) :
    (firstsFrom key seen xs).Sublist xs := by
  induction xs generalizing seen with
  | nil => exact List.Sublist.slnil
  | cons a xs ih =>
    by_cases h : key a ∈ seen
    · simpa [firstsFrom, h] using (ih seen).cons a
    · simpa [firstsFrom, h] using (ih (key a :: seen)).cons_cons a

/-- What is kept is what is the first to bear its key, if that key has not been seen. -/
theorem mem_firstsFrom_iff {key : α → κ} {seen : List κ} {xs : List α} {a : α} :
    a ∈ firstsFrom key seen xs ↔ key a ∉ seen ∧ xs.find? (key · = key a) = some a := by
  induction xs generalizing seen with
  | nil => simp [firstsFrom]
  | cons b xs ih =>
    by_cases hb : key b ∈ seen
    · simp only [firstsFrom, hb, if_true, ih]
      refine and_congr_right fun ha => ?_
      have hne : key b ≠ key a := fun heq => ha (heq ▸ hb)
      rw [List.find?_cons_of_neg (by simpa using hne)]
    · simp only [firstsFrom, hb, if_false, List.mem_cons, ih, not_or]
      by_cases heq : key b = key a
      · rw [List.find?_cons_of_pos (by simpa using heq)]
        constructor
        · rintro (rfl | ⟨⟨hne, -⟩, -⟩)
          · exact ⟨hb, rfl⟩
          · exact absurd heq.symm hne
        · rintro ⟨-, hfound⟩
          exact .inl (Option.some.inj hfound).symm
      · rw [List.find?_cons_of_neg (by simpa using heq)]
        constructor
        · rintro (rfl | ⟨⟨-, ha⟩, hfound⟩)
          · exact absurd rfl heq
          · exact ⟨ha, hfound⟩
        · rintro ⟨ha, hfound⟩
          exact .inr ⟨⟨fun h => heq h.symm, ha⟩, hfound⟩

theorem find?_key_eq_some_iff {key : α → κ} {xs : List α} {a : α} :
    xs.find? (key · = key a) = some a ↔
      ∃ before after, xs = before ++ a :: after ∧ ∀ b ∈ before, key b ≠ key a := by
  simp [List.find?_eq_some_iff_append]

theorem mem_firstsBy_iff {key : α → κ} {xs : List α} {a : α} :
    a ∈ firstsBy key xs ↔ xs.find? (key · = key a) = some a := by
  rw [firstsBy, mem_firstsFrom_iff]
  exact and_iff_right List.not_mem_nil

theorem not_mem_of_mem_firstsFrom {key : α → κ} {seen : List κ} {xs : List α} {a : α}
    (h : a ∈ firstsFrom key seen xs) : key a ∉ seen := (mem_firstsFrom_iff.mp h).1

theorem nodup_firstsFrom (key : α → κ) (seen : List κ) (xs : List α) :
    ((firstsFrom key seen xs).map key).Nodup := by
  induction xs generalizing seen with
  | nil => simp [firstsFrom]
  | cons a xs ih =>
    by_cases h : key a ∈ seen
    · simpa [firstsFrom, h] using ih seen
    · simp only [firstsFrom, h, if_false, List.map_cons, List.nodup_cons]
      refine ⟨fun hm => ?_, ih _⟩
      obtain ⟨b, hb, hk⟩ := List.mem_map.1 hm
      exact not_mem_of_mem_firstsFrom hb (by simp [hk])

theorem mem_keys_firstsFrom {key : α → κ} {seen : List κ} {xs : List α} {k : κ} :
    k ∈ (firstsFrom key seen xs).map key ↔ k ∈ xs.map key ∧ k ∉ seen := by
  induction xs generalizing seen with
  | nil => simp [firstsFrom]
  | cons a xs ih =>
    by_cases h : key a ∈ seen
    · simp only [firstsFrom, h, if_true, ih, List.map_cons, List.mem_cons]
      constructor
      · rintro ⟨hm, hs⟩
        exact ⟨.inr hm, hs⟩
      · rintro ⟨rfl | hm, hs⟩
        · exact absurd h hs
        · exact ⟨hm, hs⟩
    · simp only [firstsFrom, h, if_false, List.map_cons, List.mem_cons, ih, not_or]
      constructor
      · rintro (rfl | ⟨hm, -, hs⟩)
        · exact ⟨.inl rfl, h⟩
        · exact ⟨.inr hm, hs⟩
      · rintro ⟨rfl | hm, hs⟩
        · exact .inl rfl
        · by_cases hk : k = key a
          · exact .inl hk
          · exact .inr ⟨hm, hk, hs⟩

/-- To have seen a key is to leave out what bears it. -/
theorem firstsFrom_eq_filter (key : α → κ) (seen : List κ) (xs : List α) :
    firstsFrom key seen xs = (firstsBy key xs).filter (key · ∉ seen) := by
  induction xs generalizing seen with
  | nil => rfl
  | cons a xs ih =>
    by_cases h : key a ∈ seen
    · have hseen (b : α) : (key b ∉ seen ∧ key b ∉ [key a]) ↔ key b ∉ seen := by
        simp only [List.mem_singleton]
        exact and_iff_left_of_imp fun hb heq => hb (heq ▸ h)
      simp only [firstsBy, firstsFrom, h, if_true, List.not_mem_nil, if_false, ih seen, ih [key a]]
      rw [List.filter_cons_of_neg (by simpa using h), List.filter_filter]
      simp only [← Bool.decide_and, hseen]
    · simp only [firstsBy, firstsFrom, h, List.not_mem_nil, if_false, ih [key a],
        ih (key a :: seen)]
      rw [List.filter_cons_of_pos (by simpa using h), List.filter_filter]
      simp only [← Bool.decide_and, List.mem_cons, List.not_mem_nil, or_false, not_or, and_comm]

/-- Of the keys that have been seen only what they are counts. -/
theorem firstsFrom_congr {key : α → κ} {seen other : List κ} (h : ∀ k, k ∈ seen ↔ k ∈ other)
    (xs : List α) : firstsFrom key seen xs = firstsFrom key other xs := by
  rw [firstsFrom_eq_filter key seen, firstsFrom_eq_filter key other]
  simp only [h]

theorem firstsFrom_append (key : α → κ) (seen : List κ) (xs ys : List α) :
    firstsFrom key seen (xs ++ ys) =
      firstsFrom key seen xs ++ firstsFrom key (xs.map key ++ seen) ys := by
  induction xs generalizing seen with
  | nil => rfl
  | cons a xs ih =>
    by_cases h : key a ∈ seen
    · have hkeys (k : κ) : k ∈ xs.map key ++ seen ↔ k ∈ (a :: xs).map key ++ seen := by
        simp only [List.map_cons, List.cons_append, List.mem_cons, List.mem_append]
        refine ⟨.inr, ?_⟩
        rintro (rfl | hk)
        · exact .inr h
        · exact hk
      simp only [List.cons_append, firstsFrom, h, if_true, ih, firstsFrom_congr hkeys]
    · have hkeys (k : κ) : k ∈ xs.map key ++ key a :: seen ↔ k ∈ (a :: xs).map key ++ seen := by
        simp only [List.map_cons, List.cons_append, List.mem_cons, List.mem_append]
        exact or_left_comm
      simp only [List.cons_append, firstsFrom, h, if_false, ih, firstsFrom_congr hkeys]

theorem firstsBy_append (key : α → κ) (xs ys : List α) :
    firstsBy key (xs ++ ys) =
      firstsBy key xs ++ (firstsBy key ys).filter (key · ∉ xs.map key) := by
  rw [firstsBy, firstsFrom_append, List.append_nil, firstsFrom_eq_filter key (xs.map key)]
  rfl

/-- Where no key repeats, every one is the first. -/
theorem firstsBy_of_nodup {key : α → κ} {xs : List α} (h : (xs.map key).Nodup) :
    firstsBy key xs = xs := by
  induction xs with
  | nil => rfl
  | cons a xs ih =>
    rw [List.map_cons, List.nodup_cons] at h
    obtain ⟨hfirst, hrest⟩ := h
    simp only [firstsBy, firstsFrom, List.not_mem_nil, if_false]
    rw [firstsFrom_eq_filter, ih hrest, List.filter_eq_self.mpr]
    intro b hb
    rw [decide_eq_true_eq, List.mem_singleton]
    exact fun heq => hfirst (heq ▸ List.mem_map_of_mem hb)

/-- To leave out twice is to leave out at once what is left out either time. -/
theorem firstsFrom_firstsFrom (key : α → κ) (seen other : List κ) (xs : List α) :
    firstsFrom key seen (firstsFrom key other xs) = firstsFrom key (seen ++ other) xs := by
  rw [firstsFrom_eq_filter key seen, firstsBy_of_nodup (nodup_firstsFrom key other xs),
    firstsFrom_eq_filter key other, firstsFrom_eq_filter key (seen ++ other), List.filter_filter]
  simp only [← Bool.decide_and, List.mem_append, not_or]

/-- What is found under a key is what the list has for it, unless the key has been seen. -/
theorem find?_firstsFrom (key : α → κ) (seen : List κ) (xs : List α) (k : κ) :
    (firstsFrom key seen xs).find? (key · = k) =
      if k ∈ seen then none else xs.find? (key · = k) := by
  induction xs generalizing seen with
  | nil => exact (ite_self none).symm
  | cons a xs ih =>
    by_cases hfound : key a = k
    · subst hfound
      by_cases h : key a ∈ seen <;> simp [firstsFrom, h, ih]
    · have hkeys : k ∈ key a :: seen ↔ k ∈ seen := by
        rw [List.mem_cons]
        exact or_iff_right (Ne.symm hfound)
      by_cases h : key a ∈ seen <;> simp [firstsFrom, h, ih, hfound, hkeys]

end GuidedSynthesis
