import GuidedSynthesis.Syntax.Position
/-!
Syntax trees of generated code, as the host compiler hands them over.

An expression carries its kind, the source text it was read from and its range. The kinds are
closed: what the compiler cannot map to one of them arrives as `ExprKind.other`. `Expr.children`
lists the expressions directly below an expression; the statements in the body of an anonymous
function or an object constructor, and the defaults of an anonymous function's parameters, are not
children.
-/

namespace GuidedSynthesis

/-- A reference to a name, with the module prefix of a qualified one. -/
structure NameReference where
  modulePrefix : Option String
  name : String
  deriving DecidableEq, Repr

namespace NameReference

def isQualified (r : NameReference) : Bool := r.modulePrefix.isSome

/-- `name` or `prefix:name`. -/
def text (r : NameReference) : String :=
  match r.modulePrefix with
  | some modulePrefix => modulePrefix ++ ":" ++ r.name
  | none => r.name

end NameReference

inductive LiteralKind where
  | boolean
  | numeric
  | string
  | byteArray
  deriving DecidableEq, Repr

inductive TemplateKind where
  | string
  | xml
  | regExp
  | raw
  deriving DecidableEq, Repr

inductive TypeDescriptorKind where
  | array
  | map
  | tuple
  | union
  | intersection
  | function
  | stream
  | record
  | object
  | distinct
  deriving DecidableEq, Repr

mutual

/-- An expression: its kind, its source text and its place. -/
inductive Expr where
  | mk (kind : ExprKind) (source : String) (range : Range)

inductive ExprKind where
  | literal (kind : LiteralKind)
  | nil
  | template (kind : TemplateKind) (interpolations : List Expr)
  | nameRef (reference : NameReference)
  | builtinType (name : String)
  | singletonType (inner : Expr)
  | binary (operator : String) (left right : Expr)
  | braced (inner : Expr)
  | conditional (condition whenTrue whenFalse : Expr)
  | unary (operator : String) (operand : Expr)
  | typeCast (type : String) (operand : Expr)
  | typeTest (operand : Expr) (type : String)
  | typeof (operand : Expr)
  | listConstructor (items : List Expr)
  | mappingConstructor (fields : List MappingField)
  | tableConstructor (rows : List Expr)
  | fieldAccess (operand : Expr) (field : String)
  | optionalFieldAccess (operand : Expr) (field : String)
  | indexed (container : Expr) (keys : List Expr)
  | call (callee : NameReference) (arguments : List Expr)
  | methodCall (receiver : Expr) (method : String) (arguments : List Expr)
  | function (parameters : List Parameter) (body : List Statement)
  | arrow (parameters : List String) (body : Expr)
  | new (arguments : List Expr)
  | objectConstructor (body : List Statement)
  | errorConstructor (arguments : List Expr)
  | query (clauses : List Expr)
  | queryAction (clauses : List Expr)
  | typeDescriptor (kind : TypeDescriptorKind)
  | trap (operand : Expr)
  | check (operand : Expr)
  | transactional
  | annotAccess (operand : Expr) (tag : String)
  | xmlStep (operand : Expr)
  | xmlFilter (operand : Expr)
  | letIn (bindings : List (String × Expr)) (body : Expr)
  | natural (parts : List PromptPart)
  | other (name : String)

/-- A field of a mapping constructor. -/
inductive MappingField where
  | keyValue (key : String) (value : Expr)
  | computed (key : Expr) (value : Expr)
  | shorthand (name : Expr)
  | spread (operand : Expr)

/-- A piece of a natural-language prompt. -/
inductive PromptPart where
  | text (text : String)
  | interpolation (expr : Expr)

inductive Parameter where
  | mk (name : String) (type : String) (default : Option Expr)

inductive Statement where
  | variable (name : String) (type : String) (initializer : Option Expr)
  | assignment (target : Expr) (value : Expr)
  | expression (expr : Expr)
  | returning (expr : Option Expr)
  | conditional (condition : Expr) (thenBody elseBody : List Statement)
  | loop (condition : Expr) (body : List Statement)
  | each (name : String) (iterable : Expr) (body : List Statement)
  | block (body : List Statement)

end

instance : Inhabited ExprKind := ⟨.nil⟩

instance : Inhabited Expr := ⟨.mk default "" default⟩

instance : Inhabited MappingField := ⟨.spread default⟩

instance : Inhabited PromptPart := ⟨.text ""⟩

instance : Inhabited Parameter := ⟨.mk "" "" none⟩

instance : Inhabited Statement := ⟨.block []⟩

namespace Parameter

def default? : Parameter → Option Expr
  | mk _ _ default => default

end Parameter

namespace MappingField

/-- The expressions of a field in source order. -/
def exprs : MappingField → List Expr
  | keyValue _ value => [value]
  | computed key value => [key, value]
  | shorthand name => [name]
  | spread operand => [operand]

end MappingField

namespace PromptPart

def interpolation? : PromptPart → Option Expr
  | interpolation expr => some expr
  | text _ => none

end PromptPart

namespace Expr

def kind : Expr → ExprKind
  | mk kind _ _ => kind

def source : Expr → String
  | mk _ source _ => source

def range : Expr → Range
  | mk _ _ range => range

end Expr

/-- The expressions directly below, in source order. -/
def ExprKind.children : ExprKind → List Expr
  | literal _ | nil | nameRef _ | builtinType _ | typeDescriptor _ | transactional | other _ => []
  | template _ interpolations => interpolations
  | singletonType inner | braced inner | unary _ inner | typeCast _ inner | typeTest inner _
  | typeof inner | fieldAccess inner _ | optionalFieldAccess inner _ | trap inner | check inner
  | annotAccess inner _ | xmlStep inner | xmlFilter inner => [inner]
  | binary _ left right => [left, right]
  | conditional condition whenTrue whenFalse => [condition, whenTrue, whenFalse]
  | listConstructor items | tableConstructor items => items
  | mappingConstructor fields => fields.flatMap MappingField.exprs
  | indexed container keys => container :: keys
  | call _ arguments | new arguments | errorConstructor arguments => arguments
  | methodCall receiver _ arguments => receiver :: arguments
  | arrow _ body => [body]
  | function .. | objectConstructor _ => []
  | query clauses | queryAction clauses => clauses
  | letIn bindings body => bindings.map Prod.snd ++ [body]
  | natural parts => parts.filterMap PromptPart.interpolation?

/-- The expressions directly below, in source order. -/
def Expr.children (e : Expr) : List Expr := e.kind.children

/-- An import of a module, possibly from an organization and under a prefix. -/
structure Import where
  organization : Option String
  moduleName : List String
  localName : Option String
  source : String
  range : Range
  deriving Repr

/-- The kinds of top-level declarations. -/
inductive MemberKind where
  | functionDefinition
  | constDeclaration
  | moduleVarDeclaration
  | typeDefinition
  | classDefinition
  | serviceDeclaration
  | listenerDeclaration
  | enumDeclaration
  | annotationDeclaration
  | xmlNamespaceDeclaration
  | moduleClientDeclaration
  deriving DecidableEq, Repr

/-- The name under which a kind is reported. -/
def MemberKind.text : MemberKind → String
  | functionDefinition => "FUNCTION_DEFINITION"
  | constDeclaration => "CONST_DECLARATION"
  | moduleVarDeclaration => "MODULE_VAR_DECL"
  | typeDefinition => "TYPE_DEFINITION"
  | classDefinition => "CLASS_DEFINITION"
  | serviceDeclaration => "SERVICE_DECLARATION"
  | listenerDeclaration => "LISTENER_DECLARATION"
  | enumDeclaration => "ENUM_DECLARATION"
  | annotationDeclaration => "ANNOTATION_DECLARATION"
  | xmlNamespaceDeclaration => "MODULE_XML_NAMESPACE_DECLARATION"
  | moduleClientDeclaration => "MODULE_CLIENT_DECLARATION"

/-- A top-level declaration: the parameters and the body of a function, or the initializer of a
variable or constant. -/
structure Member where
  kind : MemberKind
  name : Option String
  parameters : List Parameter
  body : List Statement
  initializer : Option Expr
  range : Range

/-- A compilation unit: its imports, then its declarations. -/
structure ModulePart where
  imports : List Import
  members : List Member

end GuidedSynthesis
