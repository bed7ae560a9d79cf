import GuidedSynthesis.Syntax.Walk
import Mathlib.Logic.Relation
/-!
What stands where in a syntax tree, said without the walk.

A tree is made of pieces of five sorts: expressions, fields of mappings, parts of prompts,
parameters and statements. `Piece.parts` lists what stands directly in a piece, argument by
argument, nothing left out; `Piece.Holds` is what stands anywhere in it.

The walk does not enter the parameters of an anonymous function. `Piece.Shows` is therefore a
relation of its own: what can be reached from a piece without entering a parameter. Main statement:
the walk over a module meets a reference exactly where one is shown (`mem_references_walk_iff`).

## How the proof goes

Below a piece the walk meets the piece itself and then what it meets below the parts that are no
parameters (`Piece.walk_eq`). That is one case per constructor and the only place where the
constructors are looked at. The rest is an induction on the size of a piece one way, and on the path
from a piece to what it shows the other way.
-/

namespace GuidedSynthesis

/-! ## 1. Pieces -/

inductive Piece where
  | expr (e : Expr)
  | field (f : MappingField)
  | promptPart (p : PromptPart)
  | parameter (p : Parameter)
  | statement (s : Statement)

/-- What stands directly in an expression of a kind, in source order. -/
def ExprKind.parts : ExprKind → List Piece
  | literal _ | nil | nameRef _ | builtinType _ | typeDescriptor _ | transactional | other _ => []
  | template _ interpolations => interpolations.map .expr
  | singletonType inner => [.expr inner]
  | binary _ left right => [.expr left, .expr right]
  | braced inner => [.expr inner]
  | conditional condition whenTrue whenFalse =>
    [.expr condition, .expr whenTrue, .expr whenFalse]
  | unary _ operand => [.expr operand]
  | typeCast _ operand => [.expr operand]
  | typeTest operand _ => [.expr operand]
  | typeof operand => [.expr operand]
  | listConstructor items => items.map .expr
  | mappingConstructor fields => fields.map .field
  | tableConstructor rows => rows.map .expr
  | fieldAccess operand _ => [.expr operand]
  | optionalFieldAccess operand _ => [.expr operand]
  | indexed container keys => .expr container :: keys.map .expr
  | call _ arguments => arguments.map .expr
  | methodCall receiver _ arguments => .expr receiver :: arguments.map .expr
  | function parameters body => parameters.map .parameter ++ body.map .statement
  | arrow _ body => [.expr body]
  | new arguments => arguments.map .expr
  | objectConstructor body => body.map .statement
  | errorConstructor arguments => arguments.map .expr
  | query clauses => clauses.map .expr
  | queryAction clauses => clauses.map .expr
  | trap operand => [.expr operand]
  | check operand => [.expr operand]
  | annotAccess operand _ => [.expr operand]
  | xmlStep operand => [.expr operand]
  | xmlFilter operand => [.expr operand]
  | letIn bindings body => bindings.map (fun binding => .expr binding.2) ++ [.expr body]
  | natural parts => parts.map .promptPart

/-- What stands directly in a statement, in source order. -/
def Statement.parts : Statement → List Piece
  | .variable _ _ initializer => initializer.toList.map .expr
  | assignment target value => [.expr target, .expr value]
  | expression e => [.expr e]
  | returning e => e.toList.map .expr
  | conditional condition thenBody elseBody =>
    .expr condition :: (thenBody.map .statement ++ elseBody.map .statement)
  | loop condition body => .expr condition :: body.map .statement
  | each _ iterable body => .expr iterable :: body.map .statement
  | block body => body.map .statement

namespace Piece

/-- What stands directly in a piece, in source order. -/
def parts : Piece → List Piece
  | expr e => e.kind.parts
  | field (.keyValue _ value) => [.expr value]
  | field (.computed key value) => [.expr key, .expr value]
  | field (.shorthand name) => [.expr name]
  | field (.spread operand) => [.expr operand]
  | promptPart (.text _) => []
  | promptPart (.interpolation e) => [.expr e]
  | parameter p => p.default?.toList.map .expr
  | statement s => s.parts

def isParameter : Piece → Bool
  | parameter _ => true
  | _ => false

/-- The second piece stands in the first one, at whatever depth, or is that piece. -/
def Holds : Piece → Piece → Prop := Relation.ReflTransGen fun p q => q ∈ p.parts

/-- The second piece stands in the first one, and no parameter is entered on the way. -/
def Shows : Piece → Piece → Prop :=
  Relation.ReflTransGen fun p q => q ∈ p.parts ∧ q.isParameter = false

theorem Shows.holds {p q : Piece} (h : p.Shows q) : p.Holds q :=
  Relation.ReflTransGen.mono (fun _ _ hstep => hstep.1) _ _ h

end Piece

/-- The expression is the name, or calls it. -/
def Expr.RefersTo (e : Expr) (r : NameReference) : Prop :=
  e.kind = .nameRef r ∨ ∃ arguments, e.kind = .call r arguments

theorem Expr.refersTo_iff {e : Expr} {r : NameReference} :
    e.RefersTo r ↔ e.kind.reference? = some r := by
  rw [RefersTo]
  cases e.kind <;> simp [ExprKind.reference?]

/-- What stands directly in a declaration: parameters, body, initializer. -/
def Member.pieces (m : Member) : List Piece :=
  m.parameters.map .parameter ++ (m.body.map .statement ++ m.initializer.toList.map .expr)

namespace ModulePart

/-- Somewhere in a declaration of the module stands an expression that refers to a name. -/
def Mentions (m : ModulePart) (e : Expr) (r : NameReference) : Prop :=
  (∃ member ∈ m.members, ∃ p ∈ member.pieces, p.Holds (.expr e)) ∧ e.RefersTo r

/-- The same outside of the parameters of anonymous functions. -/
def Shows (m : ModulePart) (e : Expr) (r : NameReference) : Prop :=
  (∃ member ∈ m.members, ∃ p ∈ member.pieces, p.Shows (.expr e)) ∧ e.RefersTo r

theorem Shows.mentions {m : ModulePart} {e : Expr} {r : NameReference} (h : m.Shows e r) :
    m.Mentions e r := by
  obtain ⟨⟨member, hmember, p, hp, hshows⟩, hrefers⟩ := h
  exact ⟨⟨member, hmember, p, hp, hshows.holds⟩, hrefers⟩

end ModulePart

/-! ## 2. The walk, piece by piece -/

theorem mem_references_iff {visits : List Visit} {e : Expr} {r : NameReference} :
    (e, r) ∈ references visits ↔ Visit.reference e r ∈ visits := by
  rw [references, List.mem_filterMap]
  constructor
  · rintro ⟨v, hv, hr⟩
    cases v with
    | reference e' r' =>
      obtain ⟨rfl, rfl⟩ := Prod.mk.inj (Option.some.inj hr)
      exact hv
    | _ => exact nomatch hr
  · intro h
    exact ⟨_, h, rfl⟩

namespace Piece

/-- What the walk over a piece meets. -/
def walk : Piece → List Visit
  | expr e => e.walk
  | field f => f.walk
  | promptPart p => p.walk
  | parameter p => Expr.walkOption p.default?
  | statement s => s.walk

/-- What the walk meets at the piece itself. -/
def visits : Piece → List Visit
  | expr e => .expr e :: (e.kind.reference?.map (Visit.reference e)).toList
  | statement s => [.statement s]
  | _ => []

/-- What the walk meets when it comes to a piece as a part of another one: a parameter is not
entered. -/
def walkAsPart : Piece → List Visit
  | parameter _ => []
  | p => p.walk

end Piece

theorem Expr.walkOption_eq (e : Option Expr) : Expr.walkOption e = e.toList.flatMap Expr.walk := by
  cases e <;> simp [Expr.walkOption]

theorem MappingField.walkAll_flatMap (fs : List MappingField) :
    MappingField.walkAll fs = fs.flatMap MappingField.walk := by
  induction fs with
  | nil => rfl
  | cons f fs ih => rw [MappingField.walkAll, ih, List.flatMap_cons]

theorem PromptPart.walkAll_flatMap (ps : List PromptPart) :
    PromptPart.walkAll ps = ps.flatMap PromptPart.walk := by
  induction ps with
  | nil => rfl
  | cons p ps ih => rw [PromptPart.walkAll, ih, List.flatMap_cons]

theorem ExprKind.walk_eq_parts (k : ExprKind) : k.walk = k.parts.flatMap Piece.walkAsPart := by
  cases k <;>
    simp [ExprKind.parts, ExprKind.walk, Piece.walkAsPart, Piece.walk, List.flatMap_map,
      Expr.walkAll_eq, Statement.walkAll_eq, Expr.walkBindings_eq, MappingField.walkAll_flatMap,
      PromptPart.walkAll_flatMap]

theorem Statement.walk_eq_parts (s : Statement) :
    s.walk = .statement s :: s.parts.flatMap Piece.walkAsPart := by
  cases s <;>
    simp [Statement.parts, Statement.walk, Piece.walkAsPart, Piece.walk, List.flatMap_map,
      Expr.walkOption_eq, Statement.walkAll_eq]

namespace Piece

/-- The walk meets a piece, and then what it meets below the parts that are no parameters. -/
theorem walk_eq (p : Piece) : p.walk = p.visits ++ p.parts.flatMap walkAsPart := by
  cases p with
  | expr e =>
    obtain ⟨kind, source, range⟩ := e
    simp only [walk, visits, parts, Expr.walk, Expr.kind, List.cons_append, ExprKind.walk_eq_parts]
  | field f => cases f <;> simp [walk, visits, parts, walkAsPart, MappingField.walk]
  | promptPart p => cases p <;> simp [walk, visits, parts, walkAsPart, PromptPart.walk]
  | parameter p =>
    simp [walk, visits, parts, walkAsPart, List.flatMap_map, Expr.walkOption_eq]
  | statement s => exact s.walk_eq_parts

/-! ## 3. Size -/

end Piece

theorem sizeOf_snd_lt (b : String × Expr) : sizeOf b.2 < sizeOf b := by
  obtain ⟨name, e⟩ := b
  simp only [Prod.mk.sizeOf_spec]
  omega

namespace Piece

theorem sizeOf_le_of_mem_exprKind {k : ExprKind} {q : Piece} (h : q ∈ k.parts) :
    sizeOf q ≤ sizeOf k := by
  cases k <;> simp only [ExprKind.parts] at h <;> grind [→ List.sizeOf_lt_of_mem, sizeOf_snd_lt]

theorem sizeOf_le_of_mem_statement {s : Statement} {q : Piece} (h : q ∈ s.parts) :
    sizeOf q ≤ sizeOf s := by
  cases s <;> simp only [Statement.parts] at h <;> grind [→ List.sizeOf_lt_of_mem]

theorem sizeOf_lt_of_mem_parts {p q : Piece} (h : q ∈ p.parts) : sizeOf q < sizeOf p := by
  cases p with
  | expr e =>
    obtain ⟨kind, source, range⟩ := e
    have hle := sizeOf_le_of_mem_exprKind h
    simp only [Expr.kind] at hle
    simp only [expr.sizeOf_spec, Expr.mk.sizeOf_spec]
    omega
  | field f => cases f <;> simp only [parts] at h <;> grind
  | promptPart p => cases p <;> simp only [parts] at h <;> grind
  | parameter p =>
    obtain ⟨name, type, default⟩ := p
    simp only [parts, Parameter.default?] at h
    cases default <;> grind
  | statement s =>
    have hle := sizeOf_le_of_mem_statement h
    simp only [statement.sizeOf_spec]
    omega

/-! ## 4. What the walk meets -/

/-- A part into which the walk goes on is walked as it stands. -/
theorem walkAsPart_eq {p : Piece} (h : p.isParameter = false) : p.walkAsPart = p.walk := by
  cases p with
  | parameter p => exact absurd h (by simp [isParameter])
  | _ => rfl

theorem isParameter_of_mem_walkAsPart {p : Piece} {v : Visit} (h : v ∈ p.walkAsPart) :
    p.isParameter = false := by
  cases p with
  | parameter p => exact absurd h List.not_mem_nil
  | _ => rfl

/-- The walk over a piece meets what is met at the pieces that it shows. -/
theorem mem_walk_iff {p : Piece} {v : Visit} :
    v ∈ p.walk ↔ ∃ q, p.Shows q ∧ v ∈ q.visits := by
  constructor
  · intro hv
    -- by induction on the size: a visit below a part is a visit in the walk over that part
    induction hn : sizeOf p using Nat.strongRecOn generalizing p with
    | _ n ih =>
      subst hn
      rw [walk_eq, List.mem_append, List.mem_flatMap] at hv
      rcases hv with hv | ⟨q, hq, hv⟩
      · exact ⟨p, .refl, hv⟩
      · have hopen := isParameter_of_mem_walkAsPart hv
        rw [walkAsPart_eq hopen] at hv
        obtain ⟨q', hshows, hvisit⟩ := ih _ (sizeOf_lt_of_mem_parts hq) hv rfl
        exact ⟨q', .head ⟨hq, hopen⟩ hshows, hvisit⟩
  · rintro ⟨q, hshows, hv⟩
    induction hshows using Relation.ReflTransGen.head_induction_on with
    | refl =>
      rw [walk_eq]
      exact List.mem_append_left _ hv
    | head hstep _ ih =>
      obtain ⟨hq, hopen⟩ := hstep
      rw [walk_eq]
      refine List.mem_append_right _ (List.mem_flatMap.mpr ⟨_, hq, ?_⟩)
      rw [walkAsPart_eq hopen]
      exact ih

/-- At a piece the walk meets a reference when the piece is the expression that makes it. -/
theorem reference_mem_visits_iff {p : Piece} {e : Expr} {r : NameReference} :
    Visit.reference e r ∈ p.visits ↔ p = .expr e ∧ e.RefersTo r := by
  cases p with
  | expr e' =>
    rw [visits, Piece.expr.injEq]
    constructor
    · intro h
      rw [List.mem_cons, Option.mem_toList, Option.map_eq_some_iff] at h
      obtain h | ⟨r', hr, heq⟩ := h
      · exact nomatch h
      · obtain ⟨rfl, rfl⟩ := Visit.reference.inj heq
        exact ⟨rfl, Expr.refersTo_iff.mpr hr⟩
    · rintro ⟨rfl, h⟩
      rw [Expr.refersTo_iff.mp h]
      exact List.mem_cons_of_mem _ List.mem_cons_self
  | statement s => simp [visits]
  | field f => simp [visits]
  | promptPart p => simp [visits]
  | parameter p => simp [visits]

end Piece

theorem Member.walk_eq_pieces (m : Member) :
    m.walk = .member m :: m.pieces.flatMap Piece.walk := by
  have hdefaults : (m.parameters.filterMap Parameter.default?).flatMap Expr.walk =
      m.parameters.flatMap fun p => Expr.walkOption p.default? := by
    induction m.parameters with
    | nil => rfl
    | cons p ps ih =>
      rw [List.flatMap_cons, List.filterMap_cons, ← ih]
      cases p.default? <;> rfl
  rw [Member.walk, Expr.walkAll_eq, hdefaults, Statement.walkAll_eq, Expr.walkOption_eq]
  simp only [pieces, List.flatMap_append, List.flatMap_map]
  rfl

/-- The walk over a module meets the references that the module shows. -/
theorem mem_references_walk_iff {m : ModulePart} {e : Expr} {r : NameReference} :
    (e, r) ∈ references m.walk ↔ m.Shows e r := by
  have hmember (member : Member) : Visit.reference e r ∈ member.walk ↔
      (∃ p ∈ member.pieces, p.Shows (.expr e)) ∧ e.RefersTo r := by
    rw [Member.walk_eq_pieces, List.mem_cons, List.mem_flatMap]
    constructor
    · rintro (h | ⟨p, hp, hv⟩)
      · exact nomatch h
      · obtain ⟨q, hshows, hvisit⟩ := Piece.mem_walk_iff.mp hv
        obtain ⟨rfl, hrefers⟩ := Piece.reference_mem_visits_iff.mp hvisit
        exact ⟨⟨p, hp, hshows⟩, hrefers⟩
    · rintro ⟨⟨p, hp, hshows⟩, hrefers⟩
      exact .inr ⟨p, hp, Piece.mem_walk_iff.mpr
        ⟨_, hshows, Piece.reference_mem_visits_iff.mpr ⟨rfl, hrefers⟩⟩⟩
  rw [mem_references_iff, ModulePart.walk, List.mem_flatMap]
  constructor
  · rintro ⟨member, hm, hv⟩
    obtain ⟨hshows, hrefers⟩ := (hmember member).mp hv
    exact ⟨⟨member, hm, hshows⟩, hrefers⟩
  · rintro ⟨⟨member, hm, hshows⟩, hrefers⟩
    exact ⟨member, hm, (hmember member).mpr ⟨hshows, hrefers⟩⟩

end GuidedSynthesis
