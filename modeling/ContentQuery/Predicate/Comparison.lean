import ContentQuery.Clause.Basic
import ContentQuery.Context
import ContentQuery.Expr.Constant

/-!
# Comparisons

A comparison relates a field with a constant, in either order. The type of the field decides which
term it becomes: boolean fields and reference fields have terms of their own, and only orderable
fields can be compared by size.
-/

namespace ContentQuery

/-- What a comparison asks of a field. -/
inductive Comparison where
  | equality (negated : Bool)
  | ordering (op : RangeOp)
deriving DecidableEq, Repr

/-- The comparison that an operator stands for. -/
def BinaryOp.comparison? : BinaryOp → Option Comparison
  | eq => some (.equality false)
  | ne => some (.equality true)
  | lt => some (.ordering .lt)
  | le => some (.ordering .le)
  | gt => some (.ordering .gt)
  | ge => some (.ordering .ge)
  | and | or | add | sub | mul => none

namespace Comparison

/-- The symbol of a comparison. -/
def symbol : Comparison → String
  | equality negated => if negated then "!=" else "=="
  | ordering op => op.symbol

/-- The comparison seen from the other side. -/
def converse : Comparison → Comparison
  | equality negated => equality negated
  | ordering op => ordering op.converse

end Comparison

namespace CompileError

/-- A comparison needs a field on one side. -/
def comparedOperand (comparison : Comparison) (operand : Expr) : CompileError :=
  .unsupportedExpression ("comparison '" ++ comparison.symbol ++ "' on " ++ operand.describe)

/-- The values of a field have no order. -/
def orderedField (comparison : Comparison) (field : String) : CompileError :=
  .unsupportedExpression
    ("ordering comparison '" ++ comparison.symbol ++ "' on field '" ++ field ++ "'")

/-- A boolean field compared with something else. -/
def comparedBoolean (field : String) (value : Literal) : CompileError :=
  .invalidConstant ("boolean field '" ++ field ++ "' compared with " ++ value.kind)

/-- A reference field compared with something that names no node. -/
def comparedReference (field : String) (value : Literal) : CompileError :=
  .invalidConstant ("reference field '" ++ field ++ "' compared with " ++ value.kind)

/-- A node identity below zero. -/
def negativeNodeId (field : String) : CompileError :=
  .invalidConstant ("negative node id for reference field '" ++ field ++ "'")

/-- Null has no place in an order. -/
def nullBound (field : String) : CompileError :=
  .invalidConstant ("null bound in ordering comparison on field '" ++ field ++ "'")

/-- A float that is no number has no text. -/
def comparedNotFinite (field : String) : CompileError :=
  .invalidConstant ("non-finite number compared with field '" ++ field ++ "'")

end CompileError

/-- A comparison of a field with a constant expression. -/
structure FieldComparison where
  field : String
  literal : Expr
  /-- The field stands on the right. -/
  flipped : Bool

/-- Finds the field and the constant among the operands of a comparison. -/
def FieldComparison.ofOperands (comparison : Comparison) (left right : Expr) :
    Except (Stop CompileError) FieldComparison :=
  match left.isConstant, right.isConstant with
  | false, false => refuse (.nonConstantArgument comparison.symbol)
  | false, true =>
    match left with
    | .field name => .ok ⟨name, right, false⟩
    | _ => refuse (.comparedOperand comparison left)
  | true, _ =>
    match right with
    | .field name => .ok ⟨name, left, true⟩
    | _ => refuse (.comparedOperand comparison right)

/-- The identity that a literal gives of a node. -/
def Literal.nodeId (field : String) : Literal → Except (Stop CompileError) UInt64
  | node value => .ok value.id
  | int value =>
    if 0 ≤ value.toInt then .ok (UInt64.ofNat value.toInt.toNat) else refuse (.negativeNodeId field)
  | value => refuse (.comparedReference field value)

namespace Context

/-- A literal as terms hold it: null is the empty text, and text is lower-cased if the options ask
for it. -/
def termLiteral (context : Context) (field : String) : Literal → Except (Stop CompileError) Literal
  | .null => .ok (.text "")
  | .float value =>
    if isFiniteFloat value then .ok (.float value) else refuse (.comparedNotFinite field)
  | .text value =>
    .ok (.text (if context.options.lowercaseTerms then Text.lower value else value))
  | value => .ok value

/-- The term for a field that equals a literal, or for a multi-valued field that holds it. -/
def equalityTerm (context : Context) (field : String) (info : FieldInfo) (value : Literal) :
    Except (Stop CompileError) Term :=
  match info.type with
  | .reference => do return .reference info.indexedName (← value.nodeId field)
  | _ => do return .equality info.indexedName (← context.termLiteral field value)

/-- A term, negated or not. -/
def signed (negated : Bool) (term : Term) : Clause :=
  if negated then .not term else term

/-- The clause for a field that equals a literal, or differs from it. Null stands for the empty
value in fields of every type. -/
def equality (context : Context) (field : String) (info : FieldInfo) (negated : Bool)
    (value : Literal) : Except (Stop CompileError) Clause :=
  match info.type, value with
  | .bool, .bool holds => .ok (Term.boolean info.indexedName (holds != negated))
  | .bool, .null | .reference, .null =>
    .ok (signed negated (.equality info.indexedName (.text "")))
  | .bool, _ => refuse (.comparedBoolean field value)
  | _, _ => do return signed negated (← context.equalityTerm field info value)

/-- The clause for a field whose values lie on one side of a literal. -/
def ordering (context : Context) (field : String) (info : FieldInfo) (op : RangeOp)
    (bound : Literal) : Except (Stop CompileError) Clause :=
  if bound.isNull then refuse (.nullBound field)
  else do return Term.range info.indexedName op (← context.termLiteral field bound)

/-- The clause for a comparison of two expressions. -/
def comparison (context : Context) (comparison : Comparison) (left right : Expr) :
    Except (Stop CompileError) Clause := do
  let operands ← FieldComparison.ofOperands comparison left right
  let value ← operands.literal.evaluate context.time
  let info ← context.resolve operands.field (.infer value)
  match comparison with
  | .equality negated => context.equality operands.field info negated value
  | .ordering op =>
    if info.type.isOrderable then
      context.ordering operands.field info (if operands.flipped then op.converse else op) value
    else refuse (.orderedField comparison operands.field)

end Context

end ContentQuery
