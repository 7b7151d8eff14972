import ContentQuery.ContentType
import ContentQuery.Literal.Basic

/-!
# Expressions

Expressions are the predicates and the values that a caller writes about a candidate content item.
Any tree can be built; the compiler decides which ones it has a rule for.
-/

namespace ContentQuery

/-- Operators with two operands. -/
inductive BinaryOp where
  | eq
  | ne
  | lt
  | le
  | gt
  | ge
  | and
  | or
  | add
  | sub
  | mul
deriving DecidableEq, Repr

namespace BinaryOp

/-- The symbol of an operator. -/
def symbol : BinaryOp → String
  | eq => "=="
  | ne => "!="
  | lt => "<"
  | le => "<="
  | gt => ">"
  | ge => ">="
  | and => "&&"
  | or => "||"
  | add => "+"
  | sub => "-"
  | mul => "*"

/-- Comparisons relate two values; the other operators combine them. -/
def isComparison : BinaryOp → Bool
  | eq | ne | lt | le | gt | ge => true
  | and | or | add | sub | mul => false

end BinaryOp

/-- Methods of the candidate, of its fields, and of constant values. -/
inductive Method where
  | startsWith
  | endsWith
  | contains
  | type
  | typeIs
  | inFolder
  | inTree
  | addDays
  | addHours
  | addMinutes
  | addSeconds
  | toLower
  | toUpper
deriving DecidableEq, Repr

namespace Method

/-- The name of a method. -/
def name : Method → String
  | startsWith => "StartsWith"
  | endsWith => "EndsWith"
  | contains => "Contains"
  | type => "Type"
  | typeIs => "TypeIs"
  | inFolder => "InFolder"
  | inTree => "InTree"
  | addDays => "AddDays"
  | addHours => "AddHours"
  | addMinutes => "AddMinutes"
  | addSeconds => "AddSeconds"
  | toLower => "ToLower"
  | toUpper => "ToUpper"

/-- The number of arguments that a method takes. -/
def arity : Method → Nat
  | toLower | toUpper => 0
  | _ => 1

end Method

/-- A predicate or a value over a candidate content item. -/
inductive Expr where
  | constant (value : Literal)
  /-- A field of the candidate. -/
  | field (name : String)
  | candidate
  /-- The time of compilation. -/
  | now
  /-- The start of the UTC day that holds `now`. -/
  | today
  | not (operand : Expr)
  | negate (operand : Expr)
  | binary (op : BinaryOp) (left right : Expr)
  | conditional (test ifTrue ifFalse : Expr)
  | call (method : Method) (target : Expr) (arguments : List Expr)
  /-- The candidate is backed by the handler's content type. -/
  | handlerIs (handler : Handler)
deriving Repr

namespace Expr

mutual

/-- An expression is constant when it does not read the candidate. -/
def isConstant : Expr → Bool
  | constant _ | now | today => true
  | field _ | candidate | handlerIs _ => false
  | not operand | negate operand => operand.isConstant
  | binary _ left right => left.isConstant && right.isConstant
  | conditional test ifTrue ifFalse => test.isConstant && ifTrue.isConstant && ifFalse.isConstant
  | call _ target arguments => target.isConstant && areConstant arguments

/-- All of the expressions are constant. -/
def areConstant : List Expr → Bool
  | [] => true
  | expr :: exprs => expr.isConstant && areConstant exprs

end

/-- What messages call an expression. -/
def describe : Expr → String
  | constant value => "constant " ++ value.kind
  | field name => "field '" ++ name ++ "'"
  | candidate => "candidate"
  | now => "Now"
  | today => "Today"
  | not _ => "logical not"
  | negate _ => "negation"
  | binary op _ _ => "binary '" ++ op.symbol ++ "'"
  | conditional _ _ _ => "conditional"
  | call method _ _ => "call '" ++ method.name ++ "'"
  | handlerIs handler => "handler test '" ++ handler.name ++ "'"

end Expr

end ContentQuery
