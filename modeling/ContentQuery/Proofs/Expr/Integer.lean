import ContentQuery.Expr.Constant

/-!
# Integer expressions

Arithmetic on integer constants is exact or fails. An integer expression has a value in the
integers, which is what evaluation gives as long as the value of each part fits 64 bits. A part that
does not fit is an invalid constant, whatever the whole comes to, so a value never wraps around.
-/

namespace ContentQuery

open Literal (ArithmeticOp)

/-- The value fits 64 bits. -/
def IsInt64 (value : Int) : Prop :=
  Int64.minValue.toInt ≤ value ∧ value ≤ Int64.maxValue.toInt

instance (value : Int) : Decidable (IsInt64 value) :=
  inferInstanceAs (Decidable (_ ∧ _))

theorem isInt64_iff_exists {value : Int} : IsInt64 value ↔ ∃ word : Int64, word.toInt = value := by
  constructor
  · intro fits
    exact ⟨Int64.ofInt value, int64?_eq_some_iff.mp (if_pos fits)⟩
  · rintro ⟨word, rfl⟩
    exact ⟨word.minValue_le_toInt, word.toInt_le⟩

theorem int64?_eq_none_of_not_isInt64 {value : Int} (tooLarge : ¬ IsInt64 value) :
    int64? value = none :=
  if_neg tooLarge

/-- The operator that stands for an operation in an expression. -/
def Literal.ArithmeticOp.operator : ArithmeticOp → BinaryOp
  | add => .add
  | sub => .sub
  | mul => .mul

/-- An expression of integer constants and the operations of arithmetic. -/
inductive IntegerExpr where
  | constant (value : Int64)
  | negate (operand : IntegerExpr)
  | binary (op : ArithmeticOp) (left right : IntegerExpr)

namespace IntegerExpr

def toExpr : IntegerExpr → Expr
  | constant value => .constant (.int value)
  | negate operand => .negate operand.toExpr
  | binary op left right => .binary op.operator left.toExpr right.toExpr

/-- The value in the integers. -/
def value : IntegerExpr → Int
  | constant value => value.toInt
  | negate operand => -operand.value
  | binary op left right => op.onInt left.value right.value

/-- The expression and all expressions inside it. -/
def parts : IntegerExpr → List IntegerExpr
  | constant value => [constant value]
  | negate operand => negate operand :: operand.parts
  | binary op left right => binary op left right :: (left.parts ++ right.parts)

/-- The value of each part fits 64 bits. -/
def Fits (expr : IntegerExpr) : Prop :=
  ∀ part ∈ expr.parts, IsInt64 part.value

instance (expr : IntegerExpr) : Decidable expr.Fits :=
  inferInstanceAs (Decidable (∀ part ∈ expr.parts, IsInt64 part.value))

theorem fits_constant (word : Int64) : (constant word).Fits := by
  simpa [Fits, parts, value] using isInt64_iff_exists.mpr ⟨word, rfl⟩

theorem fits_negate {operand : IntegerExpr} :
    (negate operand).Fits ↔ IsInt64 (-operand.value) ∧ operand.Fits := by
  simp [Fits, parts, value]

theorem fits_binary {op : ArithmeticOp} {left right : IntegerExpr} :
    (binary op left right).Fits ↔
      IsInt64 (op.onInt left.value right.value) ∧ left.Fits ∧ right.Fits := by
  simp [Fits, parts, value, or_imp, forall_and]

end IntegerExpr

/-! ### Evaluation -/

/-- What can come of an evaluation with a known value in the integers: this value if the condition
holds, and an invalid constant if it does not. -/
inductive IsExact (value : Int) (fits : Prop) : Except (Stop CompileError) Literal → Prop
  | ok (word : Int64) (holds : fits) (exact : word.toInt = value) :
    IsExact value fits (.ok (.int word))
  | refused (reason : String) (fails : ¬ fits) :
    IsExact value fits (refuse (.invalidConstant reason))

namespace IsExact

variable {value result : Int} {fits resultFits : Prop}
  {outcome : Except (Stop CompileError) Literal}

theorem of_iff (exact : IsExact value fits outcome) (same : fits ↔ resultFits) :
    IsExact value resultFits outcome := by
  cases exact with
  | ok word holds exact => exact .ok word (same.mp holds) exact
  | refused reason fails => exact .refused reason (mt same.mpr fails)

/-- A step that is exact on exact operands. An operand that does not fit ends the evaluation. -/
theorem bind {next : Literal → Except (Stop CompileError) Literal}
    (first : IsExact value fits outcome)
    (rest : ∀ word : Int64, word.toInt = value → IsExact result resultFits (next (.int word))) :
    IsExact result (fits ∧ resultFits) (outcome >>= next) := by
  cases first with
  | ok word holds exact => exact (rest word exact).of_iff (and_iff_right holds).symm
  | refused reason fails => exact .refused reason fun both => fails both.1

end IsExact

namespace Literal

theorem isExact_exactInt (value : Int) : IsExact value (IsInt64 value) (exactInt value) := by
  by_cases fits : IsInt64 value
  · rcases isInt64_iff_exists.mp fits with ⟨word, exact⟩
    rw [exactInt, int64?_eq_some_iff.mpr exact]
    exact .ok word fits exact
  · rw [exactInt, int64?_eq_none_of_not_isInt64 fits]
    exact .refused _ fits

theorem isExact_arithmeticNegation (word : Int64) :
    IsExact (-word.toInt) (IsInt64 (-word.toInt)) (int word).arithmeticNegation := by
  by_cases fits : IsInt64 (-word.toInt)
  · rcases isInt64_iff_exists.mp fits with ⟨negated, exact⟩
    rw [arithmeticNegation, int64?_eq_some_iff.mpr exact]
    exact .ok negated fits exact
  · rw [arithmeticNegation, int64?_eq_none_of_not_isInt64 fits]
    exact .refused _ fits

end Literal

theorem Expr.evaluate_arithmetic (time : Timestamp) (op : ArithmeticOp) (left right : Expr) :
    (binary op.operator left right).evaluate time =
      left.evaluate time >>= fun first => right.evaluate time >>= op.apply first := by
  cases op <;> rfl

namespace IntegerExpr

/-- Evaluation is exact by induction on the expression: each operation is exact on exact operands,
and an operand that fails is a part that does not fit. -/
theorem isExact_evaluate (time : Timestamp) (expr : IntegerExpr) :
    IsExact expr.value expr.Fits (expr.toExpr.evaluate time) := by
  induction expr with
  | constant word => exact .ok word (fits_constant word) rfl
  | negate operand ih =>
      have negated : IsExact (-operand.value) (operand.Fits ∧ IsInt64 (-operand.value))
          (operand.negate.toExpr.evaluate time) := by
        apply ih.bind
        rintro word exact
        rw [← exact]
        exact Literal.isExact_arithmeticNegation word
      exact negated.of_iff (and_comm.trans fits_negate.symm)
  | binary op left right ihLeft ihRight =>
      let result := op.onInt left.value right.value
      have combined : IsExact result (left.Fits ∧ right.Fits ∧ IsInt64 result)
          ((binary op left right).toExpr.evaluate time) := by
        rw [toExpr, Expr.evaluate_arithmetic]
        apply ihLeft.bind
        intro first firstExact
        apply ihRight.bind
        intro second secondExact
        change IsExact (op.onInt left.value right.value)
          (IsInt64 (op.onInt left.value right.value)) _
        rw [← firstExact, ← secondExact]
        exact Literal.isExact_exactInt _
      apply combined.of_iff
      rw [fits_binary, ← and_assoc, and_comm]

end IntegerExpr

/-- An integer expression evaluates exactly if the value of each of its parts fits 64 bits. Then the
result is its value in the integers; otherwise evaluation fails, and the constant is invalid. -/
theorem Expr.evaluate_integer (time : Timestamp) (expr : IntegerExpr) :
    ((∃ literal, expr.toExpr.evaluate time = .ok literal) ↔
        ∀ part ∈ expr.parts, IsInt64 part.value) ∧
      (∀ literal, expr.toExpr.evaluate time = .ok literal →
        ∃ word : Int64, literal = .int word ∧ word.toInt = expr.value) ∧
      ∀ stop, expr.toExpr.evaluate time = .error stop →
        ∃ reason, stop = .refused (.invalidConstant reason) := by
  have outcome := expr.isExact_evaluate time
  generalize expr.toExpr.evaluate time = evaluated at outcome
  cases outcome with
  | ok word fits exact =>
      refine ⟨⟨fun _ => fits, fun _ => ⟨_, rfl⟩⟩, ?_, ?_⟩
      · rintro literal same
        cases same
        exact ⟨word, rfl, exact⟩
      · rintro stop same
        cases same
  | refused reason fails =>
      refine ⟨⟨?_, fun fits => absurd fits fails⟩, ?_, ?_⟩
      · rintro ⟨literal, same⟩
        cases same
      · rintro literal same
        cases same
      · rintro stop same
        cases same
        exact ⟨reason, rfl⟩

/-- The least integer and the greatest one add up to `-1`. A difference that fits is refused for the
sum inside that does not, and so is the negation of the least integer. -/
theorem Expr.evaluate_integer_overflow :
    let time : Timestamp := .epoch
    let least : IntegerExpr := .constant Int64.minValue
    let greatest : IntegerExpr := .constant Int64.maxValue
    let sum : IntegerExpr := .binary .add least greatest
    let difference : IntegerExpr := .binary .sub (.binary .add greatest (.constant 1)) (.constant 1)
    (∃ word : Int64, sum.toExpr.evaluate time = .ok (.int word) ∧ word.toInt = -1) ∧
      IsInt64 difference.value ∧
      (∃ reason, difference.toExpr.evaluate time = refuse (.invalidConstant reason)) ∧
      ¬ ∃ literal, least.negate.toExpr.evaluate time = .ok literal := by
  intro time least greatest sum difference
  have sumFits : sum.Fits := by decide
  have differenceFails : ¬ difference.Fits := by decide
  have negationFails : ¬ least.negate.Fits := by decide
  refine ⟨?_, by decide, ?_, mt (evaluate_integer time least.negate).1.mp negationFails⟩
  · rcases (evaluate_integer time sum).1.mpr sumFits with ⟨literal, evaluates⟩
    rcases (evaluate_integer time sum).2.1 literal evaluates with ⟨word, rfl, exact⟩
    exact ⟨word, evaluates, exact⟩
  · cases evaluates : difference.toExpr.evaluate time with
    | ok literal =>
        exact absurd ((evaluate_integer time difference).1.mp ⟨literal, evaluates⟩) differenceFails
    | error stop =>
        rcases (evaluate_integer time difference).2.2 stop evaluates with ⟨reason, rfl⟩
        exact ⟨reason, rfl⟩

end ContentQuery
