import Mathlib.Data.List.Forall2
/-!
Attempts that are made one after the other.

A list of attempts gives the list of what they give one by one (`mapM_eq_ok_iff`), or the failure of
the first one that fails (`mapM_eq_error_iff`). So it fails only if an attempt fails
(`exists_mapM_eq_ok_iff`).
-/

namespace GuidedSynthesis

variable {α β ε : Type} {attempt : α → Except ε β} {xs : List α}

theorem mapM_cons_eq (attempt : α → Except ε β) (x : α) (xs : List α) :
    (x :: xs).mapM attempt =
      match attempt x with
      | .error e => .error e
      | .ok y => (xs.mapM attempt).map (y :: ·) := by
  rw [List.mapM_cons]
  cases attempt x with
  | error e => rfl
  | ok y => cases xs.mapM attempt <;> rfl

theorem mapM_eq_ok_iff {ys : List β} :
    xs.mapM attempt = .ok ys ↔ List.Forall₂ (fun x y => attempt x = .ok y) xs ys := by
  induction xs generalizing ys with
  | nil => cases ys <;> simp [pure, Except.pure]
  | cons x xs ih =>
    rw [mapM_cons_eq]
    cases hx : attempt x with
    | error e => cases ys <;> simp [hx]
    | ok y =>
      cases ys with
      | nil => cases xs.mapM attempt <;> simp [Except.map]
      | cons z ys =>
        rw [List.forall₂_cons, hx, ← ih, Except.ok.injEq]
        cases xs.mapM attempt <;> simp [Except.map]

/-- The failure is that of the first attempt that fails. -/
theorem mapM_eq_error_iff {e : ε} :
    xs.mapM attempt = .error e ↔ ∃ before x after, xs = before ++ x :: after ∧
      (∀ y ∈ before, ∃ b, attempt y = .ok b) ∧ attempt x = .error e := by
  induction xs with
  | nil => simp [pure, Except.pure]
  | cons x xs ih =>
    rw [mapM_cons_eq]
    cases hx : attempt x with
    | error e' =>
      show Except.error e' = .error e ↔ _
      rw [Except.error.injEq]
      constructor
      · rintro rfl
        exact ⟨[], x, xs, rfl, List.forall_mem_nil _, hx⟩
      · rintro ⟨before, x', after, hxs, hbefore, hfails⟩
        cases before with
        | nil =>
          obtain ⟨rfl, -⟩ := List.cons.inj hxs
          exact Except.error.inj (hx.symm.trans hfails)
        | cons y before =>
          obtain ⟨rfl, -⟩ := List.cons.inj hxs
          obtain ⟨b, hb⟩ := hbefore x List.mem_cons_self
          exact nomatch hx.symm.trans hb
    | ok y =>
      have hrest : (xs.mapM attempt).map (y :: ·) = .error e ↔ xs.mapM attempt = .error e := by
        cases xs.mapM attempt <;> simp [Except.map]
      show (xs.mapM attempt).map (y :: ·) = .error e ↔ _
      rw [hrest, ih]
      constructor
      · rintro ⟨before, x', after, rfl, hbefore, hfails⟩
        exact ⟨x :: before, x', after, rfl, List.forall_mem_cons.mpr ⟨⟨y, hx⟩, hbefore⟩, hfails⟩
      · rintro ⟨before, x', after, hxs, hbefore, hfails⟩
        cases before with
        | nil =>
          obtain ⟨rfl, -⟩ := List.cons.inj hxs
          exact nomatch hx.symm.trans hfails
        | cons z before =>
          obtain ⟨rfl, rfl⟩ := List.cons.inj hxs
          exact ⟨before, x', after, rfl, (List.forall_mem_cons.mp hbefore).2, hfails⟩

theorem exists_mapM_eq_ok_iff :
    (∃ ys, xs.mapM attempt = .ok ys) ↔ ∀ x ∈ xs, ∃ y, attempt x = .ok y := by
  constructor
  · rintro ⟨ys, hys⟩ x hx
    have hall := mapM_eq_ok_iff.mp hys
    clear hys
    induction hall with
    | nil => exact nomatch hx
    | cons hfirst _ ih =>
      obtain rfl | hx := List.mem_cons.mp hx
      · exact ⟨_, hfirst⟩
      · exact ih hx
  · intro hall
    cases hmap : xs.mapM attempt with
    | ok ys => exact ⟨ys, rfl⟩
    | error e =>
      obtain ⟨before, x, after, rfl, -, hfails⟩ := mapM_eq_error_iff.mp hmap
      obtain ⟨y, hy⟩ := hall x (by simp)
      exact nomatch hy.symm.trans hfails

end GuidedSynthesis
