import ContentQuery.Predicate.Basic
import ContentQuery.Predicate.Comparison

/-!
# Calls and handler tests

The methods that can be predicates: text matches on a field, type filters and places in the content
tree on the candidate. Arguments have to be constant.
-/

namespace ContentQuery

namespace CompileError

/-- A method called on an expression that does not have it. -/
def callTarget (method : Method) (target : Expr) : CompileError :=
  .unsupportedExpression ("call '" ++ method.name ++ "' on " ++ target.describe)

/-- A method whose result is not a truth value. -/
def callAsPredicate (method : Method) : CompileError :=
  .unsupportedExpression ("call '" ++ method.name ++ "' used as a predicate")

/-- A text match needs an argument with a text. -/
def textArgument (method : Method) (value : Literal) : CompileError :=
  .invalidConstant ("'" ++ method.name ++ "' needs a text argument, found " ++ value.kind)

/-- A type filter needs a name. -/
def typeNameArgument (method : Method) (value : Literal) : CompileError :=
  .invalidConstant ("'" ++ method.name ++ "' needs a content type name, found " ++ value.kind)

/-- A place needs a path. -/
def pathArgument (method : Method) (value : Literal) : CompileError :=
  .invalidConstant ("'" ++ method.name ++ "' needs a path or node, found " ++ value.kind)

/-- A path that leads nowhere. -/
def blankPath (method : Method) : CompileError :=
  .invalidConstant ("'" ++ method.name ++ "' needs a non-empty path")

end CompileError

namespace Context

/-- The value of an argument. -/
def constantArgument (context : Context) (method : Method) (argument : Expr) :
    Except (Stop CompileError) Literal :=
  if argument.isConstant then argument.evaluate context.time
  else refuse (.nonConstantArgument method.name)

/-- Type filters and places are asked of the candidate alone. -/
def requireCandidate (method : Method) : Expr → Except (Stop CompileError) Unit
  | .candidate => .ok ()
  | target => refuse (.callTarget method target)

/-- A pattern on a field. The empty text matches every value. -/
def pattern (info : FieldInfo) (method : Method) (shape : WildcardShape) (value : Literal) :
    Except (Stop CompileError) Predicate :=
  match value.matchText with
  | none => refuse (.textArgument method value)
  | some text =>
    .ok (if text.isEmpty then .constant true
      else .clause (Term.wildcard info.indexedName text shape))

/-- The predicate for a text match. On a multi-valued field, `contains` asks for membership. -/
def textMatch (context : Context) (method : Method) (shape : WildcardShape)
    (target argument : Expr) :
    Except (Stop CompileError) Predicate := do
  let value ← context.constantArgument method argument
  match target with
  | .field name =>
    let info ← context.resolve name (if shape = .contains then .infer value else .text)
    if shape = .contains && info.multivalued then
      return .clause (← context.equalityTerm name info value)
    else pattern info method shape value
  | _ => refuse (.callTarget method target)

/-- The clause for a type filter. -/
def typeFilter (context : Context) (method : Method) (transitive : Bool) (target argument : Expr) :
    Except (Stop CompileError) Clause := do
  requireCandidate method target
  match ← context.constantArgument method argument with
  | .text name =>
    if Text.isBlankText name then refuse (.typeNameArgument method (.text name))
    else return Term.typeFilter (Text.lower name) transitive
  | value => refuse (.typeNameArgument method value)

/-- The path that a literal stands for. -/
def placePath (method : Method) : Literal → Except (Stop CompileError) String
  | .text path => .ok path
  | .node node => .ok node.path
  | value => refuse (.pathArgument method value)

/-- The clause for a place in the content tree. -/
def place (context : Context) (method : Method) (kind : ScopeKind) (target argument : Expr) :
    Except (Stop CompileError) Clause := do
  requireCandidate method target
  let path ← placePath method (← context.constantArgument method argument)
  if Text.isBlankText path then refuse (.blankPath method)
  else return Term.scope kind (Text.lower path)

/-- The predicate for a call. -/
def call (context : Context) (method : Method) (target : Expr) (arguments : List Expr) :
    Except (Stop CompileError) Predicate :=
  if arguments.length ≠ method.arity then refuse (.argumentCount method arguments.length)
  else
    match method, arguments with
    | .startsWith, [argument] => context.textMatch method .startsWith target argument
    | .endsWith, [argument] => context.textMatch method .endsWith target argument
    | .contains, [argument] => context.textMatch method .contains target argument
    | .type, [argument] => .clause <$> context.typeFilter method false target argument
    | .typeIs, [argument] => .clause <$> context.typeFilter method true target argument
    | .inFolder, [argument] => .clause <$> context.place method .inFolder target argument
    | .inTree, [argument] => .clause <$> context.place method .inTree target argument
    | _, _ => refuse (.callAsPredicate method)

/-- The clause for a handler test. -/
def handlerTest (context : Context) (handler : Handler) : Except (Stop CompileError) Clause :=
  match context.registry.typeName? handler with
  | some name => .ok (Term.typeFilter (Text.lower name) true)
  | none => refuse (.unknownContentType handler.name)

end Context

end ContentQuery
