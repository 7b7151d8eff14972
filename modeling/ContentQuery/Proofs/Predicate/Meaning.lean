import ContentQuery.Proofs.Clause.Meaning
import ContentQuery.Proofs.Predicate.Shape

/-!
# Meaning of expressions

`Expr.Means` gives truth values to expressions by rules and does without predicates for the logical
operators: these have their truth tables. A constant expression can also be given the value that it
evaluates to, which is the same one, and so no expression has two values. An expression that stands
for a predicate has the truth value of the predicate.
-/

namespace ContentQuery

namespace Predicate

/-- The predicate holds where the given terms do. -/
def holds (satisfies : Term → Bool) : Predicate → Bool
  | constant value => value
  | clause inner => inner.holds satisfies

variable {satisfies : Term → Bool}

theorem holds_and (left right : Predicate) :
    (left.and right).holds satisfies = (left.holds satisfies && right.holds satisfies) := by
  simp only [and]
  split <;> simp [holds, Clause.holds, Clause.allHold, Bool.and_comm]

theorem holds_or (left right : Predicate) :
    (left.or right).holds satisfies = (left.holds satisfies || right.holds satisfies) := by
  simp only [or]
  split <;> simp [holds, Clause.holds, Clause.anyHolds]

theorem holds_not {guardField : String} (item : Item guardField) (predicate : Predicate) :
    predicate.not.holds item.satisfies = !predicate.holds item.satisfies := by
  cases predicate with
  | constant value => rfl
  | clause inner => exact Clause.holds_negate item inner

theorem holds_choose {guardField : String} (item : Item guardField)
    (test ifTrue ifFalse : Predicate) :
    (choose test ifTrue ifFalse).holds item.satisfies =
      if test.holds item.satisfies then ifTrue.holds item.satisfies
      else ifFalse.holds item.satisfies := by
  rw [choose, holds_or, holds_and, holds_and, holds_not]
  cases test.holds item.satisfies <;> simp

end Predicate

namespace Expr

/-- The expression has the truth value where the given terms hold. -/
inductive Means (context : Context) (satisfies : Term → Bool) : Expr → Bool → Prop where
  | constant {expr : Expr} {value : Bool} (isConstant : expr.isConstant = true)
      (evaluates : expr.evaluate context.time = .ok (.bool value)) :
      Means context satisfies expr value
  | field {name : String} {predicate : Predicate}
      (lowers : Predicate.ofField context name = .ok predicate) :
      Means context satisfies (.field name) (predicate.holds satisfies)
  | not {operand : Expr} {value : Bool} (operandMeans : Means context satisfies operand value) :
      Means context satisfies (.not operand) (!value)
  | and {left right : Expr} {first second : Bool}
      (leftMeans : Means context satisfies left first)
      (rightMeans : Means context satisfies right second) :
      Means context satisfies (.binary .and left right) (first && second)
  | or {left right : Expr} {first second : Bool}
      (leftMeans : Means context satisfies left first)
      (rightMeans : Means context satisfies right second) :
      Means context satisfies (.binary .or left right) (first || second)
  | comparison {op : BinaryOp} {comparison : Comparison} {left right : Expr} {clause : Clause}
      (compares : op.comparison? = some comparison)
      (lowers : context.comparison comparison left right = .ok clause) :
      Means context satisfies (.binary op left right) (clause.holds satisfies)
  /-- A choice with a constant test is the chosen branch, whatever the other one is. -/
  | chosen {test ifTrue ifFalse : Expr} {choice value : Bool}
      (isConstant : test.isConstant = true)
      (decides : test.evaluateCondition context.time = .ok choice)
      (branchMeans : Means context satisfies (if choice then ifTrue else ifFalse) value) :
      Means context satisfies (.conditional test ifTrue ifFalse) value
  | conditional {test ifTrue ifFalse : Expr} {choice first second : Bool}
      (testMeans : Means context satisfies test choice)
      (trueMeans : Means context satisfies ifTrue first)
      (falseMeans : Means context satisfies ifFalse second) :
      Means context satisfies (.conditional test ifTrue ifFalse) (if choice then first else second)
  | call {method : Method} {target : Expr} {arguments : List Expr} {predicate : Predicate}
      (lowers : context.call method target arguments = .ok predicate) :
      Means context satisfies (.call method target arguments) (predicate.holds satisfies)
  | handlerIs {handler : Handler} {clause : Clause}
      (lowers : context.handlerTest handler = .ok clause) :
      Means context satisfies (.handlerIs handler) (clause.holds satisfies)

end Expr

/-! ### Constant expressions -/

namespace Context

variable {context : Context}

theorem isConstant_of_comparison {comparison : Comparison} {left right : Expr} {clause : Clause}
    (compiled : context.comparison comparison left right = .ok clause) :
    (left.isConstant && right.isConstant) = false := by
  rcases bind_eq_ok.mp compiled with ⟨operands, found, _⟩
  simp only [FieldComparison.ofOperands] at found
  split at found
  · cases found
  · simp [*]
  · split at found
    · simp [Expr.isConstant]
    · cases found

theorem isConstant_of_call {method : Method} {target : Expr} {arguments : List Expr}
    {predicate : Predicate} (compiled : context.call method target arguments = .ok predicate) :
    target.isConstant = false := by
  rcases call_eq_ok compiled with
    ⟨argument, rfl, ⟨shape, matched⟩ | ⟨_, inner, filtered, _⟩ | ⟨_, inner, placed, _⟩⟩
  · rcases textMatch_eq_ok matched with ⟨name, _, _, _, rfl, _⟩
    rfl
  · rcases typeFilter_eq_ok filtered with ⟨rfl, _⟩
    rfl
  · rcases place_eq_ok placed with ⟨rfl, _⟩
    rfl

end Context

namespace Expr

variable {context : Context} {satisfies : Term → Bool}

theorem evaluateCondition_eq_ok {present : Timestamp} {expr : Expr} {value : Bool} :
    expr.evaluateCondition present = .ok value ↔ expr.evaluate present = .ok (.bool value) := by
  constructor
  · intro decides
    rcases bind_eq_ok.mp decides with ⟨literal, evaluates, decides⟩
    cases literal with
    | bool value =>
        cases decides
        exact evaluates
    | _ => cases decides
  · intro evaluates
    exact bind_eq_ok.mpr ⟨.bool value, evaluates, rfl⟩

theorem evaluate_conditional {present : Timestamp} {test ifTrue ifFalse : Expr} {choice : Bool}
    (decides : test.evaluate present = .ok (.bool choice)) :
    (conditional test ifTrue ifFalse).evaluate present =
      (if choice then ifTrue else ifFalse).evaluate present := by
  rw [evaluate, decides]
  cases choice <;> rfl

/-- The truth tables agree with evaluation. -/
theorem Means.evaluate_eq {expr : Expr} {value : Bool} (means : Means context satisfies expr value)
    (isConstant : expr.isConstant = true) : expr.evaluate context.time = .ok (.bool value) := by
  induction means with
  | constant _ evaluates => exact evaluates
  | field | handlerIs => cases isConstant
  | @not _ value _ ih =>
      rw [evaluate, ih isConstant]
      rfl
  | @and _ _ first second _ _ ihLeft ihRight =>
      rcases Bool.and_eq_true_iff.mp isConstant with ⟨leftConstant, rightConstant⟩
      rw [evaluate, ihLeft leftConstant, ihRight rightConstant]
      cases first <;> rfl
  | @or _ _ first second _ _ ihLeft ihRight =>
      rcases Bool.and_eq_true_iff.mp isConstant with ⟨leftConstant, rightConstant⟩
      rw [evaluate, ihLeft leftConstant, ihRight rightConstant]
      cases first <;> rfl
  | comparison _ lowers =>
      have nonConstant := Context.isConstant_of_comparison lowers
      cases isConstant.symm.trans nonConstant
  | @chosen _ _ _ choice _ _ decides _ ih =>
      rcases Bool.and_eq_true_iff.mp isConstant with ⟨both, falseConstant⟩
      rcases Bool.and_eq_true_iff.mp both with ⟨_, trueConstant⟩
      rw [evaluate_conditional (evaluateCondition_eq_ok.mp decides)]
      apply ih
      cases choice with
      | true => exact trueConstant
      | false => exact falseConstant
  | @conditional _ _ _ choice first second _ _ _ ihTest ihTrue ihFalse =>
      rcases Bool.and_eq_true_iff.mp isConstant with ⟨both, falseConstant⟩
      rcases Bool.and_eq_true_iff.mp both with ⟨testConstant, trueConstant⟩
      rw [evaluate_conditional (ihTest testConstant)]
      cases choice with
      | true => exact ihTrue trueConstant
      | false => exact ihFalse falseConstant
  | call lowers =>
      have nonConstant := Context.isConstant_of_call lowers
      rcases Bool.and_eq_true_iff.mp isConstant with ⟨targetConstant, _⟩
      cases targetConstant.symm.trans nonConstant

theorem Means.eq_of_evaluate {expr : Expr} {value other : Bool}
    (means : Means context satisfies expr value) (isConstant : expr.isConstant = true)
    (evaluates : expr.evaluate context.time = .ok (.bool other)) : value = other := by
  have same := (means.evaluate_eq isConstant).symm.trans evaluates
  cases same
  rfl

/-- No expression has two truth values. -/
theorem Means.unique {expr : Expr} {value other : Bool}
    (means : Means context satisfies expr value) (otherMeans : Means context satisfies expr other) :
    value = other := by
  induction means generalizing other with
  | constant isConstant evaluates => exact (otherMeans.eq_of_evaluate isConstant evaluates).symm
  | field lowers =>
      cases otherMeans with
      | constant isConstant _ => cases isConstant
      | field otherLowers =>
          cases lowers.symm.trans otherLowers
          rfl
  | not operandMeans ih =>
      cases otherMeans with
      | constant isConstant evaluates =>
          exact (Means.not operandMeans).eq_of_evaluate isConstant evaluates
      | not otherOperand => rw [ih otherOperand]
  | and leftMeans rightMeans ihLeft ihRight =>
      cases otherMeans with
      | constant isConstant evaluates =>
          exact (Means.and leftMeans rightMeans).eq_of_evaluate isConstant evaluates
      | and otherLeft otherRight => rw [ihLeft otherLeft, ihRight otherRight]
      | comparison compares _ => cases compares
  | or leftMeans rightMeans ihLeft ihRight =>
      cases otherMeans with
      | constant isConstant evaluates =>
          exact (Means.or leftMeans rightMeans).eq_of_evaluate isConstant evaluates
      | or otherLeft otherRight => rw [ihLeft otherLeft, ihRight otherRight]
      | comparison compares _ => cases compares
  | comparison compares lowers =>
      cases otherMeans with
      | constant isConstant evaluates =>
          exact (Means.comparison compares lowers).eq_of_evaluate isConstant evaluates
      | and | or => cases compares
      | comparison otherCompares otherLowers =>
          cases compares.symm.trans otherCompares
          cases lowers.symm.trans otherLowers
          rfl
  | @chosen _ _ _ choice _ testConstant decides branchMeans ih =>
      cases otherMeans with
      | constant isConstant evaluates =>
          exact (Means.chosen testConstant decides branchMeans).eq_of_evaluate isConstant evaluates
      | chosen _ otherDecides otherBranch =>
          cases decides.symm.trans otherDecides
          exact ih otherBranch
      | conditional testMeans trueMeans falseMeans =>
          have evaluates := evaluateCondition_eq_ok.mp decides
          cases testMeans.eq_of_evaluate testConstant evaluates
          cases choice with
          | true => exact ih trueMeans
          | false => exact ih falseMeans
  | @conditional _ _ _ choice _ _ testMeans trueMeans falseMeans ihTest ihTrue ihFalse =>
      cases otherMeans with
      | constant isConstant evaluates =>
          exact (Means.conditional testMeans trueMeans falseMeans).eq_of_evaluate
            isConstant evaluates
      | chosen testConstant decides otherBranch =>
          have evaluates := evaluateCondition_eq_ok.mp decides
          cases testMeans.eq_of_evaluate testConstant evaluates
          cases choice with
          | true => exact ihTrue otherBranch
          | false => exact ihFalse otherBranch
      | conditional otherTest otherTrue otherFalse =>
          cases ihTest otherTest
          cases ihTrue otherTrue
          cases ihFalse otherFalse
          rfl
  | call lowers =>
      cases otherMeans with
      | constant isConstant evaluates =>
          exact (Means.call lowers).eq_of_evaluate isConstant evaluates
      | call otherLowers =>
          cases lowers.symm.trans otherLowers
          rfl
  | handlerIs lowers =>
      cases otherMeans with
      | constant isConstant _ => cases isConstant
      | handlerIs otherLowers =>
          cases lowers.symm.trans otherLowers
          rfl

end Expr

namespace Predicate

variable {context : Context} {guardField : String}

theorem means_of_ofExpr (item : Item guardField) {expr : Expr} {predicate : Predicate}
    (compiled : ofExpr context expr = .ok predicate) :
    expr.Means context item.satisfies (predicate.holds item.satisfies) := by
  refine ofExpr_induction ?_ ?_ ?_ ?_ ?_ ?_ ?_ ?_ ?_ ?_ compiled
  · intro expr value isConstant evaluates
    exact .constant isConstant evaluates
  · intro name predicate fieldCompiled
    exact .field fieldCompiled
  · intro operand inner operandMeans
    rw [holds_not]
    exact .not operandMeans
  · intro left right first second leftMeans rightMeans
    rw [holds_and]
    exact .and leftMeans rightMeans
  · intro left right first second leftMeans rightMeans
    rw [holds_or]
    exact .or leftMeans rightMeans
  · intro op kind left right inner compares comparisonCompiled
    exact .comparison compares comparisonCompiled
  · intro test ifTrue ifFalse choice predicate testConstant decides branchMeans
    exact .chosen testConstant decides branchMeans
  · intro test ifTrue ifFalse first second third testMeans trueMeans falseMeans
    rw [holds_choose]
    exact .conditional testMeans trueMeans falseMeans
  · intro method target arguments predicate callCompiled
    exact .call callCompiled
  · intro handler inner testCompiled
    exact .handlerIs testCompiled

/-- An expression has the truth value of its predicate and no other. -/
theorem means_iff_of_ofExpr (item : Item guardField) {expr : Expr} {predicate : Predicate}
    (compiled : ofExpr context expr = .ok predicate) (value : Bool) :
    expr.Means context item.satisfies value ↔ value = predicate.holds item.satisfies := by
  have means := means_of_ofExpr item compiled
  constructor
  · intro valueMeans
    exact valueMeans.unique means
  · rintro rfl
    exact means

end Predicate

end ContentQuery
