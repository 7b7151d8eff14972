import ContentQuery.Predicate.Call

/-!
# Predicates of expressions

Each kind of expression has one rule that gives its predicate or refuses it. A constant expression
is evaluated as a whole, and a choice with a constant test is the chosen branch alone.
-/

namespace ContentQuery

namespace CompileError

/-- An expression that is no truth value. -/
def notPredicate (expr : Expr) : CompileError :=
  .unsupportedExpression (expr.describe ++ " used as a predicate")

/-- A constant that is no truth value. -/
def constantNotPredicate (value : Literal) : CompileError :=
  .unsupportedExpression ("constant " ++ value.kind ++ " used as a predicate")

/-- A number where a truth value is wanted. -/
def arithmeticPredicate (op : BinaryOp) : CompileError :=
  .unsupportedExpression ("arithmetic '" ++ op.symbol ++ "' used as a predicate")

/-- A field that holds no truth value. -/
def fieldNotPredicate (field : String) : CompileError :=
  .unsupportedExpression ("non-boolean field '" ++ field ++ "' used as a predicate")

end CompileError

namespace Predicate

/-- The truth value of a constant expression. -/
def ofConstant (context : Context) (expr : Expr) : Except (Stop CompileError) Predicate := do
  match ← expr.evaluate context.time with
  | .bool holds => return constant holds
  | value => refuse (.constantNotPredicate value)

/-- A boolean field holds when its value is true. -/
def ofField (context : Context) (name : String) : Except (Stop CompileError) Predicate := do
  let info ← context.resolve name .bool
  if info.type = .bool then return clause (Term.boolean info.indexedName true)
  else refuse (.fieldNotPredicate name)

/-- The predicate that an expression stands for. -/
def ofExpr (context : Context) (expr : Expr) : Except (Stop CompileError) Predicate :=
  if expr.isConstant then ofConstant context expr
  else
    match expr with
    | .field name => ofField context name
    | .not operand => do return (← ofExpr context operand).not
    | .binary .and left right => do return (← ofExpr context left).and (← ofExpr context right)
    | .binary .or left right => do return (← ofExpr context left).or (← ofExpr context right)
    | .binary op left right =>
      match op.comparison? with
      | some comparison => .clause <$> context.comparison comparison left right
      | none => refuse (.arithmeticPredicate op)
    | .conditional test ifTrue ifFalse =>
      if test.isConstant then do
        if ← test.evaluateCondition context.time then ofExpr context ifTrue
        else ofExpr context ifFalse
      else do
        return (← ofExpr context test).choose (← ofExpr context ifTrue) (← ofExpr context ifFalse)
    | .call method target arguments => context.call method target arguments
    | .handlerIs handler => .clause <$> context.handlerTest handler
    | .constant _ | .candidate | .now | .today | .negate _ => refuse (.notPredicate expr)

end Predicate

end ContentQuery
