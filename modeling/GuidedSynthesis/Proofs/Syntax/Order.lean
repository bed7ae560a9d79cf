import GuidedSynthesis.Proofs.Syntax.Pieces
import Mathlib.Data.List.Basic
/-!
In which order the walk meets the references.

`Piece.references` lists the references of a piece as they stand in the tree: that of the piece
itself, then those of what stands directly in it, one part after the other in source order. The
parameters of anonymous functions are left out. Main statement: the walk over a module meets exactly
these references, each as often as it stands there and in this order (`references_walk`).

As for what the walk meets at all, the induction is on the size of a piece, and the constructors are
looked at in `Piece.walk_eq` only.
-/

namespace GuidedSynthesis

/-! ## 1. References as they stand -/

namespace Piece

/-- The reference that is made at the piece itself. -/
def reference? : Piece → Option (Expr × NameReference)
  | expr e => e.kind.reference?.map (e, ·)
  | _ => none

/-- What stands directly in a piece and is walked with it. -/
def openParts (p : Piece) : List Piece := p.parts.filter (!·.isParameter)

theorem sizeOf_lt_of_mem_openParts {p q : Piece} (h : q ∈ p.openParts) : sizeOf q < sizeOf p :=
  sizeOf_lt_of_mem_parts (List.mem_filter.mp h).1

/-- The references of a piece, in source order. -/
def references (p : Piece) : List (Expr × NameReference) :=
  p.reference?.toList ++ p.openParts.attach.flatMap fun q => references q.1
termination_by sizeOf p
decreasing_by exact sizeOf_lt_of_mem_openParts q.2

theorem references_eq (p : Piece) :
    p.references = p.reference?.toList ++ p.openParts.flatMap references := by
  rw [references, List.flatMap_subtype fun _ _ => rfl, List.unattach_attach]

end Piece

/-- The references of the declarations of a module, in source order. -/
def ModulePart.references (m : ModulePart) : List (Expr × NameReference) :=
  m.members.flatMap fun member => member.pieces.flatMap Piece.references

/-! ## 2. References that are met -/

theorem references_append (xs ys : List Visit) :
    references (xs ++ ys) = references xs ++ references ys :=
  List.filterMap_append

theorem references_flatMap {α : Type} (walk : α → List Visit) (xs : List α) :
    references (xs.flatMap walk) = xs.flatMap fun x => references (walk x) := by
  induction xs with
  | nil => rfl
  | cons x xs ih => rw [List.flatMap_cons, references_append, ih, List.flatMap_cons]

namespace Piece

theorem flatMap_walkAsPart (qs : List Piece) :
    qs.flatMap walkAsPart = (qs.filter (!·.isParameter)).flatMap walk := by
  induction qs with
  | nil => rfl
  | cons q qs ih =>
    rw [List.flatMap_cons, ih]
    cases h : q.isParameter with
    | true =>
      have hnothing : q.walkAsPart = [] := by
        cases q with
        | parameter p => rfl
        | _ => exact nomatch h
      rw [hnothing, List.nil_append, List.filter_cons_of_neg (by simp [h])]
    | false => rw [walkAsPart_eq h, List.filter_cons_of_pos (by simp [h]), List.flatMap_cons]

theorem references_visits (p : Piece) :
    GuidedSynthesis.references p.visits = p.reference?.toList := by
  cases p with
  | expr e =>
    rw [visits, reference?]
    cases e.kind.reference? <;> rfl
  | _ => rfl

/-- The walk over a piece meets the references of the piece as they stand. -/
theorem references_walk_eq (p : Piece) : GuidedSynthesis.references p.walk = p.references := by
  induction hn : sizeOf p using Nat.strongRecOn generalizing p with
  | _ n ih =>
    subst hn
    rw [walk_eq, references_append, references_visits, flatMap_walkAsPart, references_flatMap,
      references_eq, List.append_cancel_left_eq]
    exact List.flatMap_congr fun q hq => ih _ (sizeOf_lt_of_mem_openParts hq) q rfl

end Piece

theorem references_walk_member (m : Member) :
    references m.walk = m.pieces.flatMap Piece.references := by
  rw [Member.walk_eq_pieces]
  show references (m.pieces.flatMap Piece.walk) = _
  rw [references_flatMap]
  exact List.flatMap_congr fun p _ => p.references_walk_eq

/-- The walk over a module meets the references of the module as they stand. -/
theorem references_walk (m : ModulePart) : references m.walk = m.references := by
  rw [ModulePart.walk, references_flatMap]
  exact List.flatMap_congr fun member _ => references_walk_member member

end GuidedSynthesis
