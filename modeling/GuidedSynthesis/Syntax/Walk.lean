import GuidedSynthesis.Syntax.Tree
/-!
The walk over a syntax tree, as the list of what it meets.

The walk meets a node before the nodes below it. Below an expression it first meets the reference
that the expression makes (a name, or the callee of a call), then the statements of the body of an
anonymous function or object constructor, then the children. The defaults of the parameters of an
anonymous function are not visited; those of a declared function are. `Expr.walk_eq` states the rule
in terms of `Expr.children`.
-/

namespace GuidedSynthesis

/-- What a walk meets. -/
inductive Visit where
  | member (member : Member)
  | statement (statement : Statement)
  | expr (expr : Expr)
  | reference (expr : Expr) (reference : NameReference)

namespace ExprKind

/-- The name that an expression of this kind refers to. -/
def reference? : ExprKind → Option NameReference
  | nameRef reference => some reference
  | call callee _ => some callee
  | _ => none

/-- The statements that an expression of this kind encloses. -/
def body : ExprKind → List Statement
  | function _ body => body
  | objectConstructor body => body
  | _ => []

end ExprKind

mutual

/-- What the walk over an expression meets. -/
def Expr.walk : Expr → List Visit
  | .mk kind source range =>
    .expr (.mk kind source range) ::
      ((kind.reference?.map (Visit.reference (.mk kind source range))).toList ++ kind.walk)

/-- What the walk meets below an expression of this kind. -/
def ExprKind.walk : ExprKind → List Visit
  | .literal _ | .nil | .nameRef _ | .builtinType _ | .typeDescriptor _ | .transactional
  | .other _ => []
  | .template _ items => Expr.walkAll items
  | .singletonType inner => inner.walk
  | .braced inner => inner.walk
  | .unary _ inner => inner.walk
  | .typeCast _ inner => inner.walk
  | .typeTest inner _ => inner.walk
  | .typeof inner => inner.walk
  | .fieldAccess inner _ => inner.walk
  | .optionalFieldAccess inner _ => inner.walk
  | .trap inner => inner.walk
  | .check inner => inner.walk
  | .annotAccess inner _ => inner.walk
  | .xmlStep inner => inner.walk
  | .xmlFilter inner => inner.walk
  | .binary _ left right => left.walk ++ right.walk
  | .conditional condition whenTrue whenFalse => condition.walk ++ (whenTrue.walk ++ whenFalse.walk)
  | .listConstructor items => Expr.walkAll items
  | .tableConstructor items => Expr.walkAll items
  | .mappingConstructor fields => MappingField.walkAll fields
  | .indexed container keys => container.walk ++ Expr.walkAll keys
  | .call _ arguments => Expr.walkAll arguments
  | .new arguments => Expr.walkAll arguments
  | .errorConstructor arguments => Expr.walkAll arguments
  | .methodCall receiver _ arguments => receiver.walk ++ Expr.walkAll arguments
  | .arrow _ body => body.walk
  | .function _ body => Statement.walkAll body
  | .objectConstructor body => Statement.walkAll body
  | .query clauses => Expr.walkAll clauses
  | .queryAction clauses => Expr.walkAll clauses
  | .letIn bindings body => Expr.walkBindings bindings ++ body.walk
  | .natural parts => PromptPart.walkAll parts

def Expr.walkAll : List Expr → List Visit
  | [] => []
  | e :: more => e.walk ++ Expr.walkAll more

def Expr.walkOption : Option Expr → List Visit
  | none => []
  | some e => e.walk

def Expr.walkBindings : List (String × Expr) → List Visit
  | [] => []
  | (_, e) :: more => e.walk ++ Expr.walkBindings more

def MappingField.walk : MappingField → List Visit
  | .keyValue _ value => value.walk
  | .computed key value => key.walk ++ value.walk
  | .shorthand name => name.walk
  | .spread operand => operand.walk

def MappingField.walkAll : List MappingField → List Visit
  | [] => []
  | field :: more => field.walk ++ MappingField.walkAll more

def PromptPart.walk : PromptPart → List Visit
  | .text _ => []
  | .interpolation e => e.walk

def PromptPart.walkAll : List PromptPart → List Visit
  | [] => []
  | part :: more => part.walk ++ PromptPart.walkAll more

/-- What the walk over a statement meets. -/
def Statement.walk : Statement → List Visit
  | .variable name type initializer =>
    .statement (.variable name type initializer) :: Expr.walkOption initializer
  | .assignment target value => .statement (.assignment target value) :: (target.walk ++ value.walk)
  | .expression e => .statement (.expression e) :: e.walk
  | .returning e => .statement (.returning e) :: Expr.walkOption e
  | .conditional condition thenBody elseBody =>
    .statement (.conditional condition thenBody elseBody) ::
      (condition.walk ++ (Statement.walkAll thenBody ++ Statement.walkAll elseBody))
  | .loop condition body =>
    .statement (.loop condition body) :: (condition.walk ++ Statement.walkAll body)
  | .each name iterable body =>
    .statement (.each name iterable body) :: (iterable.walk ++ Statement.walkAll body)
  | .block body => .statement (.block body) :: Statement.walkAll body

def Statement.walkAll : List Statement → List Visit
  | [] => []
  | statement :: more => statement.walk ++ Statement.walkAll more

end

/-- What the walk over a declaration meets: defaults of parameters, body, initializer. -/
def Member.walk (m : Member) : List Visit :=
  .member m ::
    (Expr.walkAll (m.parameters.filterMap Parameter.default?) ++
      (Statement.walkAll m.body ++ Expr.walkOption m.initializer))

/-- What the walk over the declarations of a module meets. Imports are not visited. -/
def ModulePart.walk (m : ModulePart) : List Visit := m.members.flatMap Member.walk

/-- The reference, with the expression that makes it, if the walk met one. -/
def Visit.reference? : Visit → Option (Expr × NameReference)
  | .reference e r => some (e, r)
  | _ => none

/-- The references among what a walk met. -/
def references (visits : List Visit) : List (Expr × NameReference) :=
  visits.filterMap Visit.reference?

/-! ## The walk in terms of children -/

theorem Expr.walkAll_eq (es : List Expr) : Expr.walkAll es = es.flatMap Expr.walk := by
  induction es with
  | nil => simp [Expr.walkAll]
  | cons e es ih => simp [Expr.walkAll, ih]

theorem Statement.walkAll_eq (ss : List Statement) :
    Statement.walkAll ss = ss.flatMap Statement.walk := by
  induction ss with
  | nil => simp [Statement.walkAll]
  | cons s ss ih => simp [Statement.walkAll, ih]

theorem Expr.walkBindings_eq (bs : List (String × Expr)) :
    Expr.walkBindings bs = (bs.map Prod.snd).flatMap Expr.walk := by
  induction bs with
  | nil => simp [Expr.walkBindings]
  | cons b bs ih => simp [Expr.walkBindings, ih]

theorem MappingField.walk_eq (f : MappingField) : f.walk = f.exprs.flatMap Expr.walk := by
  cases f <;> simp [MappingField.walk, MappingField.exprs]

theorem MappingField.walkAll_eq (fs : List MappingField) :
    MappingField.walkAll fs = (fs.flatMap MappingField.exprs).flatMap Expr.walk := by
  induction fs with
  | nil => simp [MappingField.walkAll]
  | cons f fs ih => simp [MappingField.walkAll, ih, MappingField.walk_eq]

theorem PromptPart.walkAll_eq (ps : List PromptPart) :
    PromptPart.walkAll ps = (ps.filterMap PromptPart.interpolation?).flatMap Expr.walk := by
  induction ps with
  | nil => simp [PromptPart.walkAll]
  | cons p ps ih =>
    cases p <;> simp [PromptPart.walkAll, PromptPart.walk, ih, List.filterMap_cons,
      PromptPart.interpolation?]

theorem ExprKind.walk_eq (k : ExprKind) :
    k.walk = k.body.flatMap Statement.walk ++ k.children.flatMap Expr.walk := by
  cases k <;>
    simp [ExprKind.walk, ExprKind.body, ExprKind.children, Expr.walkAll_eq, Statement.walkAll_eq,
      Expr.walkBindings_eq, MappingField.walkAll_eq, PromptPart.walkAll_eq]

/-- Below an expression the walk meets its reference, then the statements it encloses, then its
children. -/
theorem Expr.walk_eq (e : Expr) :
    e.walk = .expr e :: ((e.kind.reference?.map (Visit.reference e)).toList ++
      (e.kind.body.flatMap Statement.walk ++ e.children.flatMap Expr.walk)) := by
  cases e
  simp [Expr.walk, Expr.kind, Expr.children, ExprKind.walk_eq]

end GuidedSynthesis
