import ContentQuery.Proofs.Clause.Connective
import ContentQuery.Proofs.Predicate.Rules

/-!
# Comparisons of a field with a constant

The constant of a comparison may stand on either side of its field. A test of equality does not
notice, and an ordering is turned around. The main statement is that a constant on the left is
compiled like the converse comparison with the constant on the right, up to the wording of errors,
which cite the comparison as it was written.
-/

namespace ContentQuery

namespace BinaryOp

/-- The operator seen from the other side. -/
def converse : BinaryOp → BinaryOp
  | lt => gt
  | le => ge
  | gt => lt
  | ge => le
  | op => op

theorem comparison?_converse (op : BinaryOp) :
    op.converse.comparison? = op.comparison?.map Comparison.converse := by
  cases op <;> rfl

theorem isComparison_iff {op : BinaryOp} :
    op.isComparison = true ↔ ∃ comparison, op.comparison? = some comparison := by
  cases op <;> simp [isComparison, comparison?]

end BinaryOp

/-! ### Operands -/

namespace FieldComparison

/-- One operand is the field and the other one is the value. -/
inductive Operands (name : String) (value : Expr) : Expr → Expr → Prop
  | fieldFirst : Operands name value (.field name) value
  | valueFirst : Operands name value value (.field name)

variable {comparison : Comparison} {name : String} {value left right : Expr}

theorem ofOperands_fieldFirst (isConstant : value.isConstant = true) :
    ofOperands comparison (.field name) value = .ok ⟨name, value, false⟩ := by
  simp [ofOperands, Expr.isConstant, isConstant]

theorem ofOperands_valueFirst (isConstant : value.isConstant = true) :
    ofOperands comparison value (.field name) = .ok ⟨name, value, true⟩ := by
  simp [ofOperands, isConstant]

theorem Operands.isConstant_binary (operands : Operands name value left right) (op : BinaryOp) :
    (Expr.binary op left right).isConstant = false := by
  cases operands <;> simp [Expr.isConstant]

end FieldComparison

open FieldComparison (Operands)

theorem Predicate.ofExpr_comparison {context : Context} {op : BinaryOp} {comparison : Comparison}
    {left right : Expr} (compares : op.comparison? = some comparison)
    (notConstant : (Expr.binary op left right).isConstant = false) :
    ofExpr context (.binary op left right) =
      clause <$> context.comparison comparison left right := by
  rw [ofExpr.eq_def, if_neg (by simp [notConstant])]
  cases op <;> cases compares <;> rfl

/-! ### Tests of equality -/

theorem Clause.negate_signed {leaf : Term} (notBoolean : (term leaf).isBoolean = false)
    (negated : Bool) : (Context.signed negated leaf).negate = Context.signed (!negated) leaf := by
  cases negated with
  | false => exact negate_eq_not rfl notBoolean
  | true => rfl

namespace Context

variable {context : Context} {name : String} {value left right : Expr}

theorem isBoolean_of_equalityTerm {field : String} {info : FieldInfo} {literal : Literal}
    {leaf : Term} (compiled : context.equalityTerm field info literal = .ok leaf) :
    (Clause.term leaf).isBoolean = false := by
  rcases equalityTerm_eq_ok compiled with ⟨target, rfl⟩ | ⟨written, _, rfl⟩ <;> rfl

/-- A test for a difference is the negation of the test for equality, down to the error. -/
theorem equality_not (field : String) (info : FieldInfo) (negated : Bool) (literal : Literal) :
    context.equality field info (!negated) literal =
      Clause.negate <$> context.equality field info negated literal := by
  have signs (compared : Literal) :
      (context.equalityTerm field info compared >>= fun leaf => pure (signed (!negated) leaf)) =
        Clause.negate <$>
          (context.equalityTerm field info compared >>= fun leaf =>
            pure (signed negated leaf)) := by
    cases compiled : context.equalityTerm field info compared with
    | error cause => rfl
    | ok leaf =>
        have notBoolean := isBoolean_of_equalityTerm compiled
        exact congrArg Except.ok (Clause.negate_signed notBoolean negated).symm
  simp only [equality]
  split
  next value _ => cases value <;> cases negated <;> rfl
  case h_2 | h_3 => exact congrArg Except.ok (Clause.negate_signed rfl negated).symm
  next => rfl
  next => exact signs _

/-- A test of equality reads the same from both sides. -/
theorem comparison_equality (isConstant : value.isConstant = true)
    (operands : Operands name value left right) (negated : Bool) :
    context.comparison (.equality negated) left right =
      value.evaluate context.time >>= fun literal =>
        context.resolve name (.infer literal) >>= fun info =>
          context.equality name info negated literal := by
  cases operands with
  | fieldFirst => rw [comparison, FieldComparison.ofOperands_fieldFirst isConstant]; rfl
  | valueFirst => rw [comparison, FieldComparison.ofOperands_valueFirst isConstant]; rfl

theorem comparison_equality_not (isConstant : value.isConstant = true)
    (operands : Operands name value left right) (negated : Bool) :
    context.comparison (.equality !negated) left right =
      Clause.negate <$> context.comparison (.equality negated) left right := by
  rw [comparison_equality isConstant operands, comparison_equality isConstant operands]
  cases value.evaluate context.time with
  | error cause => rfl
  | ok literal =>
      change (context.resolve name (.infer literal) >>= _) =
        Clause.negate <$> (context.resolve name (.infer literal) >>= _)
      cases context.resolve name (.infer literal) with
      | error cause => rfl
      | ok info => exact equality_not name info negated literal

end Context

/-! ### Converse comparisons -/

/-- Errors may differ in what they cite, but not otherwise. -/
def Stop.SameVariant (first second : Stop CompileError) : Prop :=
  first.map CompileError.label = second.map CompileError.label

theorem Stop.sameVariant_refl (stop : Stop CompileError) : stop.SameVariant stop :=
  rfl

open Stop (SameVariant sameVariant_refl)

theorem Context.agree_comparison_converse (context : Context) (name : String) {value : Expr}
    (isConstant : value.isConstant = true) (kind : Comparison) :
    Agree SameVariant (context.comparison kind value (.field name))
      (context.comparison kind.converse (.field name) value) := by
  rw [comparison, comparison, FieldComparison.ofOperands_valueFirst isConstant,
    FieldComparison.ofOperands_fieldFirst isConstant]
  change Agree _ (value.evaluate context.time >>= _) (value.evaluate context.time >>= _)
  apply Agree.bind sameVariant_refl
  intro literal
  apply Agree.bind sameVariant_refl
  intro info
  cases kind with
  | equality negated => exact .refl sameVariant_refl _
  | ordering op =>
      cases orderable : info.type.isOrderable with
      | true => simpa [Comparison.converse, orderable] using .refl sameVariant_refl _
      | false => simpa [Comparison.converse, orderable] using .error rfl

namespace Predicate

end Predicate

end ContentQuery
