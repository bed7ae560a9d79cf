import GuidedSynthesis.Diagnostic
import Mathlib.Data.List.Induction
/-!
What merging makes of two lists of diagnostics.

Diagnostics are merged by putting the compiler's before the validator's and keeping, of those that
read the same, the one that stands first. So the merged list is what `firstOccurrences` picks out of
both, place by place. It starts with the compiler's own diagnostics, each message once, and what the
validator adds are the first occurrences of its messages that the compiler does not have. Merging
what has been merged changes nothing, and of three lists it does not matter which two are merged
first (`merge_law`).

## How the proof goes

All of it holds for any things that bear keys. One more thing at the end of a list is kept if its
key is new (`firstsBy_concat`), so by induction from the end what is kept are the places that no
earlier place agrees with (`firstsBy_eq_firstPlaces`). What a list keeps has the keys of the list,
so it can stand for the list on either side of a merge (`firstsBy_firstsBy_append`,
`firstsBy_append_firstsBy`); associativity is one step of each.
-/

namespace GuidedSynthesis

section Keys

variable {α κ : Type} [DecidableEq κ] {key : α → κ}

/-! ## 1. First places -/

/-- The elements at those places of a list before which their key does not stand, in order. -/
def firstPlaces (key : α → κ) (xs : List α) : List α :=
  (xs.zipIdx.filter fun (a, place) => key a ∉ (xs.take place).map key).map Prod.fst

theorem firstsBy_concat (key : α → κ) (xs : List α) (a : α) :
    firstsBy key (xs ++ [a]) =
      firstsBy key xs ++ if key a ∈ xs.map key then [] else [a] := by
  have hone : firstsBy key [a] = [a] := by simp [firstsBy, firstsFrom]
  rw [firstsBy_append, hone]
  congr 1
  by_cases h : key a ∈ xs.map key
  · rw [if_pos h, List.filter_cons_of_neg (by simpa using h), List.filter_nil]
  · rw [if_neg h, List.filter_cons_of_pos (by simpa using h), List.filter_nil]

theorem firstPlaces_concat (key : α → κ) (xs : List α) (a : α) :
    firstPlaces key (xs ++ [a]) =
      firstPlaces key xs ++ if key a ∈ xs.map key then [] else [a] := by
  -- the places of `xs` have the same places before them as in `xs` alone
  have hbefore : ∀ x ∈ xs.zipIdx, (xs ++ [a]).take x.2 = xs.take x.2 := by
    rintro ⟨b, place⟩ hmem
    have hplace : place < xs.length := by simpa using List.snd_lt_of_mem_zipIdx hmem
    exact List.take_append_of_le_length (Nat.le_of_lt hplace)
  have hkept : (xs.zipIdx.filter fun x => key x.1 ∉ ((xs ++ [a]).take x.2).map key) =
      xs.zipIdx.filter fun x => key x.1 ∉ (xs.take x.2).map key :=
    List.filter_congr fun x hx => by rw [hbefore x hx]
  unfold firstPlaces
  rw [List.zipIdx_append, List.filter_append, List.map_append, hkept]
  congr 1
  by_cases h : key a ∈ xs.map key <;> simp [h]

/-- What is kept is what stands first with its key, in order. -/
theorem firstsBy_eq_firstPlaces (key : α → κ) (xs : List α) :
    firstsBy key xs = firstPlaces key xs := by
  induction xs using List.reverseRecOn with
  | nil => rfl
  | append_singleton xs a ih => rw [firstsBy_concat, firstPlaces_concat, ih]

/-! ## 2. Repetition -/

theorem mem_keys_firstsBy {xs : List α} {k : κ} :
    k ∈ (firstsBy key xs).map key ↔ k ∈ xs.map key := by
  simp [firstsBy, mem_keys_firstsFrom]

theorem firstsBy_firstsBy (key : α → κ) (xs : List α) :
    firstsBy key (firstsBy key xs) = firstsBy key xs :=
  firstsBy_of_nodup (nodup_firstsFrom key [] xs)

theorem firstsBy_firstsBy_append (key : α → κ) (xs ys : List α) :
    firstsBy key (firstsBy key xs ++ ys) = firstsBy key (xs ++ ys) := by
  rw [firstsBy_append, firstsBy_append key xs, firstsBy_firstsBy]
  simp only [mem_keys_firstsBy]

theorem firstsBy_append_firstsBy (key : α → κ) (xs ys : List α) :
    firstsBy key (xs ++ firstsBy key ys) = firstsBy key (xs ++ ys) := by
  rw [firstsBy_append, firstsBy_append key xs, firstsBy_firstsBy]

end Keys

/-! ## 3. Diagnostics -/

namespace Diagnostic

/-- The diagnostics before which their message does not stand, in order, each as it stands there. -/
def firstOccurrences (ds : List Diagnostic) : List Diagnostic := firstPlaces Diagnostic.message ds

/-- Diagnostics that are left of a list when each message is kept once, where it stands first. -/
structure KeptOnce (ds kept : List Diagnostic) : Prop where
  sublist : kept.Sublist ds
  nodup : (kept.map Diagnostic.message).Nodup
  /-- No message is lost. -/
  messages : ∀ message, message ∈ kept.map Diagnostic.message ↔ message ∈ ds.map Diagnostic.message
  /-- What is kept is what stands first with its message. -/
  first : ∀ d, d ∈ kept ↔
    ∃ before after, ds = before ++ d :: after ∧ ∀ earlier ∈ before, earlier.message ≠ d.message
  /-- It is kept in the order of the places where it stands first. -/
  inOrder : kept = firstOccurrences ds

theorem keptOnce_dedup (ds : List Diagnostic) : KeptOnce ds (dedup ds) where
  sublist := firstsFrom_sublist Diagnostic.message [] ds
  nodup := nodup_firstsFrom Diagnostic.message [] ds
  messages := fun _ => mem_keys_firstsBy
  first := fun _ => mem_firstsBy_iff.trans find?_key_eq_some_iff
  inOrder := firstsBy_eq_firstPlaces Diagnostic.message ds

/-- Merging keeps each message once, where it stands first, the compiler's before the validator's;
it starts with what the compiler's diagnostics leave and goes on with the first occurrences of the
validator's other messages. Keeping each message once a second time changes nothing, and merging is
associative. -/
theorem merge_law :
    (∀ host validator : List Diagnostic,
      KeptOnce (host ++ validator) (merge host validator) ∧
      merge host validator = dedup host ++
        (firstOccurrences validator).filter (·.message ∉ host.map Diagnostic.message)) ∧
    (∀ ds, KeptOnce ds (dedup ds)) ∧
    (∀ ds, dedup (dedup ds) = dedup ds) ∧
    ∀ a b c, merge (merge a b) c = merge a (merge b c) := by
  refine ⟨fun host validator => ⟨keptOnce_dedup _, ?_⟩, keptOnce_dedup,
    firstsBy_firstsBy Diagnostic.message, fun a b c => ?_⟩
  · have hfirst : firstOccurrences validator = dedup validator :=
      (keptOnce_dedup validator).inOrder.symm
    rw [hfirst]
    exact firstsBy_append Diagnostic.message host validator
  · calc merge (merge a b) c
        = dedup (a ++ b ++ c) := firstsBy_firstsBy_append Diagnostic.message (a ++ b) c
      _ = dedup (a ++ (b ++ c)) := by rw [List.append_assoc]
      _ = merge a (merge b c) := (firstsBy_append_firstsBy Diagnostic.message a (b ++ c)).symm

/-- The compiler's message comes first with its place, and takes that of the validator away. -/
example :
    let at' (line : UInt32) : Option SourceLocation := some ⟨"a.bal", ⟨⟨line, 0⟩, ⟨line, 1⟩⟩⟩
    merge [⟨"x", at' 1⟩, ⟨"y", none⟩, ⟨"x", at' 2⟩] [⟨"y", at' 3⟩, ⟨"z", at' 4⟩, ⟨"z", at' 5⟩] =
      [⟨"x", at' 1⟩, ⟨"y", none⟩, ⟨"z", at' 4⟩] := by
  decide

end Diagnostic

end GuidedSynthesis
