import ContentQuery.Proofs.Clause.Canonical
import ContentQuery.Proofs.Expr.Parts
import ContentQuery.Proofs.Predicate.Comparison
import ContentQuery.Proofs.Predicate.Grouping
import ContentQuery.Proofs.Predicate.Meaning
import ContentQuery.Query.Builder
import ContentQuery.Query.Compile
import Mathlib.Logic.Function.Iterate

/-!
# Expressions that compile alike

A predicate can be written in several ways that make no difference to the compiled query. Two
expressions are alike if they stand for the same predicate and, where they are constant, have the
same value; then either may replace the other in a filter, also beside other filters.

The main statements are that a choice with a constant test is the chosen branch, whatever the other
one is, and that negations cancel: a negation of a negation is resolved on the spot, because the
predicates of expressions never hold a negation over a clause that is itself negated or boolean.
-/

namespace ContentQuery

open FieldComparison (Operands)

/-! ### Choices with a constant test -/

namespace Predicate

variable {context : Context}

/-- The test is evaluated first and then the chosen branch alone, whether the whole choice is
constant or only its test. -/
theorem ofExpr_conditional_eq_bind {test : Expr} (isConstant : test.isConstant = true)
    (ifTrue ifFalse : Expr) :
    ofExpr context (.conditional test ifTrue ifFalse) =
      test.evaluateCondition context.time >>= fun choice =>
        ofExpr context (if choice then ifTrue else ifFalse) := by
  cases whole : (Expr.conditional test ifTrue ifFalse).isConstant with
  | true =>
      rcases Bool.and_eq_true_iff.mp whole with ⟨both, falseConstant⟩
      have trueConstant := (Bool.and_eq_true_iff.mp both).2
      rw [ofExpr_eq_ofConstant whole, ofConstant, Expr.evaluate_conditional_eq_bind, bind_assoc]
      congr 1
      funext choice
      have branchConstant : (if choice then ifTrue else ifFalse).isConstant = true := by
        cases choice <;> assumption
      rw [ofExpr_eq_ofConstant branchConstant, ofConstant]
  | false =>
      rw [ofExpr.eq_def, if_neg (by simp [whole])]
      simp only [isConstant, if_true]
      congr 1
      funext choice
      cases choice <;> rfl

/-- A choice with a constant test that is a truth value is the chosen branch, down to the error, and
whatever the other branch is. A test that has another value is refused as an invalid constant,
whatever the branches are. -/
theorem ofExpr_conditional_of_isConstant (context : Context) {test : Expr}
    (isConstant : test.isConstant = true) :
    (∀ choice, test.evaluate context.time = .ok (.bool choice) → ∀ ifTrue ifFalse,
        ofExpr context (.conditional test ifTrue ifFalse) =
          ofExpr context (if choice then ifTrue else ifFalse)) ∧
      ∀ value, test.evaluate context.time = .ok value → (∀ choice, value ≠ .bool choice) →
        ∃ reason, ∀ ifTrue ifFalse,
          ofExpr context (.conditional test ifTrue ifFalse) = refuse (.invalidConstant reason) := by
  constructor
  · intro choice evaluates ifTrue ifFalse
    rw [ofExpr_conditional_eq_bind isConstant, Expr.evaluateCondition_eq_ok.mpr evaluates]
    rfl
  · intro value evaluates other
    refine ⟨"expected a boolean condition, found " ++ value.kind, ?_⟩
    intro ifTrue ifFalse
    have fails : test.evaluateCondition context.time = refuse (.notCondition value) := by
      rw [Expr.evaluateCondition, evaluates]
      cases value with
      | bool choice => exact absurd rfl (other choice)
      | _ => rfl
    rw [ofExpr_conditional_eq_bind isConstant, fails]
    rfl

/-- The branch that is not chosen may name a field that nobody knows, and no branch saves a test
that is a number. -/
theorem ofExpr_conditional_of_isConstant_unknownField :
    let context : Context := ⟨.empty, .empty, {}, .epoch⟩
    let test : Expr := .binary .lt (.constant (.int 1)) (.constant (.int 2))
    let number : Expr := .binary .add (.constant (.int 1)) (.constant (.int 2))
    let unknown : Expr := .field "Gone"
    test.isConstant = true ∧ test.evaluate context.time = .ok (.bool true) ∧
      number.isConstant = true ∧ number.evaluate context.time = .ok (.int 3) ∧
      ofExpr context unknown = refuse (.unknownField "Gone") ∧
      ofExpr context (.conditional test (.constant (.bool false)) unknown) =
        ofExpr context (.constant (.bool false)) ∧
      ∃ reason, ofExpr context (.conditional number (.constant (.bool false)) unknown) =
        refuse (.invalidConstant reason) := by
  intro context test number unknown
  have chosen := (@ofExpr_conditional_of_isConstant context test rfl).1 true rfl
  have refused := (@ofExpr_conditional_of_isConstant context number rfl).2 (.int 3) rfl nofun
  rcases refused with ⟨reason, fails⟩
  exact ⟨rfl, rfl, rfl, rfl, rfl, chosen _ _, reason, fails _ _⟩

end Predicate

/-! ### Expressions that may replace each other -/

namespace Expr

/-- The expressions may replace each other: they stand for the same predicate, or fail to for the
same reason, and they are evaluated alike where they are evaluated. -/
structure Alike (context : Context) (one other : Expr) : Prop where
  isConstant : one.isConstant = other.isConstant
  evaluate : one.isConstant = true → one.evaluate context.time = other.evaluate context.time
  ofExpr : Predicate.ofExpr context one = Predicate.ofExpr context other

namespace Alike

variable {context : Context} {one other third : Expr}

theorem refl (context : Context) (expr : Expr) : Alike context expr expr :=
  ⟨rfl, fun _ => rfl, rfl⟩

theorem trans (first : Alike context one other) (second : Alike context other third) :
    Alike context one third where
  isConstant := first.isConstant.trans second.isConstant
  evaluate isConstant :=
    (first.evaluate isConstant).trans (second.evaluate (first.isConstant ▸ isConstant))
  ofExpr := first.ofExpr.trans second.ofExpr

theorem of_isConstant (oneConstant : one.isConstant = true)
    (otherConstant : other.isConstant = true)
    (evaluate : one.evaluate context.time = other.evaluate context.time) :
    Alike context one other where
  isConstant := oneConstant.trans otherConstant.symm
  evaluate _ := evaluate
  ofExpr := by
    rw [Predicate.ofExpr_eq_ofConstant oneConstant, Predicate.ofExpr_eq_ofConstant otherConstant]
    simp only [Predicate.ofConstant, evaluate]

theorem of_not_isConstant (oneVaries : one.isConstant = false)
    (otherVaries : other.isConstant = false)
    (ofExpr : Predicate.ofExpr context one = Predicate.ofExpr context other) :
    Alike context one other where
  isConstant := oneVaries.trans otherVaries.symm
  evaluate isConstant := absurd isConstant (by simp [oneVaries])
  ofExpr := ofExpr

end Alike

end Expr

theorem Predicate.ofExpr_not {context : Context} {operand : Expr}
    (varies : operand.isConstant = false) :
    ofExpr context operand.not = not <$> ofExpr context operand := by
  rw [ofExpr.eq_def, if_neg (by simp [Expr.isConstant, varies])]
  dsimp only
  cases ofExpr context operand <;> rfl

namespace Expr.Alike

variable {context : Context} {one other : Expr}

theorem not (alike : Alike context one other) : Alike context one.not other.not := by
  cases oneConstant : one.isConstant with
  | true =>
      have otherConstant := alike.isConstant.symm.trans oneConstant
      refine of_isConstant ?_ ?_ ?_
      · exact oneConstant
      · exact otherConstant
      · simp only [Expr.evaluate, alike.evaluate oneConstant]
  | false =>
      have otherVaries := alike.isConstant.symm.trans oneConstant
      refine of_not_isConstant ?_ ?_ ?_
      · exact oneConstant
      · exact otherVaries
      · rw [Predicate.ofExpr_not oneConstant, Predicate.ofExpr_not otherVaries, alike.ofExpr]

theorem and (first : Expr) (alike : Alike context one other) :
    Alike context (.binary .and first one) (.binary .and first other) := by
  have sameKind : (binary .and first one).isConstant = (binary .and first other).isConstant := by
    rw [Expr.isConstant, Expr.isConstant, alike.isConstant]
  cases isConstant : (binary .and first one).isConstant with
  | true =>
      have oneConstant := (Bool.and_eq_true_iff.mp isConstant).2
      apply of_isConstant isConstant (sameKind.symm.trans isConstant)
      simp only [Expr.evaluate, alike.evaluate oneConstant]
  | false =>
      have varies := sameKind.symm.trans isConstant
      apply of_not_isConstant isConstant varies
      rw [Predicate.ofExpr.eq_def, Predicate.ofExpr.eq_def context (binary .and first other),
        if_neg (by simp [isConstant]), if_neg (by simp [varies])]
      simp only [alike.ofExpr]

end Expr.Alike

namespace Query

/-- The expressions stand for the same predicate, and as filters they make no difference to any
query in any scope. -/
def CompileAlike (context : Context) (one other : Expr) : Prop :=
  Predicate.ofExpr context one = Predicate.ofExpr context other ∧
    ∀ (query : Query) (scope : Scope),
      (query.filter one).compile context scope = (query.filter other).compile context scope

theorem compileAlike_of_alike {context : Context} {one other : Expr}
    (alike : one.Alike context other) : CompileAlike context one other := by
  refine ⟨alike.ofExpr, ?_⟩
  intro query scope
  have samePredicate :
      (query.filter one).toPredicate context = (query.filter other).toPredicate context := by
    cases filtered : query.predicate with
    | none => simpa only [filter, toPredicate, filtered] using alike.ofExpr
    | some first => simpa only [filter, toPredicate, filtered] using (alike.and first).ofExpr
  have sameLowered : (query.filter one).lower context = (query.filter other).lower context := by
    simp only [lower, samePredicate]
    rfl
  simp only [compile, outcome, compileIn, sameLowered]

end Query

/-! ### Negations -/

namespace Clause

/-- A resolved clause comes back when it is negated twice. -/
theorem negate_negate {clause : Clause} (resolved : clause.IsResolved) :
    clause.negate.negate = clause := by
  rcases clause.negate_cases with
    ⟨inner, rfl, negates⟩ | ⟨field, value, rfl, negates⟩ | ⟨_, _, negates⟩
  · rw [negates]
    exact negate_eq_not resolved.1 resolved.2
  · rw [negates, negate, Bool.not_not]
  · rw [negates, negate]

/-- No negation inside the clause can be resolved further. -/
def IsResolvedThroughout (clause : Clause) : Prop :=
  clause.Everywhere IsResolved

theorem isResolvedThroughout_term (leaf : Term) : (term leaf).IsResolvedThroughout :=
  everywhere_term.mpr trivial

theorem isResolvedThroughout_signed {leaf : Term} (notBoolean : (term leaf).isBoolean = false)
    (negated : Bool) : (Context.signed negated leaf).IsResolvedThroughout := by
  cases negated with
  | false => exact isResolvedThroughout_term leaf
  | true => exact everywhere_not.mpr ⟨⟨rfl, notBoolean⟩, isResolvedThroughout_term leaf⟩

end Clause

namespace Context

open Clause (isResolvedThroughout_term isResolvedThroughout_signed)

variable {context : Context}

theorem isResolvedThroughout_of_comparison {kind : Comparison} {left right : Expr}
    {clause : Clause} (compiled : context.comparison kind left right = .ok clause) :
    clause.IsResolvedThroughout := by
  rcases comparison_eq_ok compiled with
    ⟨operands, value, info, _, _, ⟨negated, compiled⟩ | ⟨op, compiled⟩⟩
  · rcases equality_eq_ok compiled with ⟨holds, rfl⟩ | rfl | ⟨leaf, leafCompiled, rfl⟩
    · exact isResolvedThroughout_term _
    · exact isResolvedThroughout_signed rfl negated
    · exact isResolvedThroughout_signed (isBoolean_of_equalityTerm leafCompiled) negated
  · rcases ordering_eq_ok compiled with ⟨bound, _, rfl⟩
    exact isResolvedThroughout_term _

end Context

namespace Predicate

open Clause (IsResolvedThroughout)

variable {context : Context}

theorem keptByConnectives_isResolvedThroughout : KeptByConnectives IsResolvedThroughout where
  pair connective first second firstResolved secondResolved := by
    refine Clause.everywhere_group.mpr ⟨Clause.isResolved_group, ?_⟩
    simp only [List.forall_mem_cons]
    exact ⟨firstResolved, secondResolved, by simp⟩
  negate inner resolved := by
    rcases inner.negate_cases with
      ⟨inside, rfl, negates⟩ | ⟨field, value, _, negates⟩ | ⟨notNegated, notBoolean, negates⟩ <;>
        rw [negates]
    · exact (Clause.everywhere_not.mp resolved).2
    · exact Clause.isResolvedThroughout_term _
    · exact Clause.everywhere_not.mpr ⟨⟨notNegated, notBoolean⟩, resolved⟩

/-- The predicate of an expression holds no negation that could be resolved further. -/
theorem isResolvedThroughout_ofExpr {expr : Expr} {predicate : Predicate}
    (compiled : ofExpr context expr = .ok predicate) :
    predicate.Satisfies IsResolvedThroughout := by
  refine ofExpr_induction ?_ ?_ ?_ ?_ ?_ ?_ ?_ ?_ ?_ ?_ compiled
  · intro expr value _ _
    trivial
  · intro name predicate fieldCompiled
    exact satisfies_of_ofField Clause.isResolvedThroughout_term fieldCompiled
  · intro operand inner
    exact satisfies_not keptByConnectives_isResolvedThroughout
  · intro left right first second
    exact satisfies_join keptByConnectives_isResolvedThroughout .and
  · intro left right first second
    exact satisfies_join keptByConnectives_isResolvedThroughout .or
  · intro op kind left right inner _ comparisonCompiled
    exact Context.isResolvedThroughout_of_comparison comparisonCompiled
  · intro test ifTrue ifFalse choice predicate _ _ branchResolved
    exact branchResolved
  · intro test ifTrue ifFalse first second third
    exact satisfies_choose keptByConnectives_isResolvedThroughout
  · intro method target arguments predicate callCompiled
    exact satisfies_of_call Clause.isResolvedThroughout_term callCompiled
  · intro handler inner testCompiled
    rcases Context.handlerTest_eq_ok testCompiled with ⟨name, _, rfl⟩
    exact Clause.isResolvedThroughout_term _

theorem not_not {predicate : Predicate} (resolved : predicate.Satisfies IsResolvedThroughout) :
    predicate.not.not = predicate := by
  cases predicate with
  | constant value => rw [not, not, Bool.not_not]
  | clause inner => rw [not, not, Clause.negate_negate (resolved inner inner.mem_parts_self)]

end Predicate

namespace Expr.Alike

variable {context : Context} {expr : Expr} {predicate : Predicate}

theorem not_not (compiled : Predicate.ofExpr context expr = .ok predicate) :
    Alike context expr.not.not expr := by
  cases isConstant : expr.isConstant with
  | true =>
      rw [Predicate.ofExpr_eq_ofConstant isConstant] at compiled
      rcases Predicate.ofConstant_eq_ok.mp compiled with ⟨value, evaluates, _⟩
      refine of_isConstant ?_ isConstant ?_
      · exact isConstant
      · rw [Expr.evaluate, Expr.evaluate, evaluates]
        cases value <;> rfl
  | false =>
      have notVaries : expr.not.isConstant = false := isConstant
      refine of_not_isConstant ?_ isConstant ?_
      · exact notVaries
      · have resolved := Predicate.isResolvedThroughout_ofExpr compiled
        rw [Predicate.ofExpr_not notVaries, Predicate.ofExpr_not isConstant, compiled]
        exact congrArg Except.ok (Predicate.not_not resolved)

theorem iterate_not (compiled : Predicate.ofExpr context expr = .ok predicate) (count : Nat) :
    Alike context (Expr.not^[2 * count] expr) expr := by
  induction count with
  | zero => exact refl context expr
  | succ count ih =>
      rw [Nat.mul_succ, Function.iterate_succ_apply', Function.iterate_succ_apply']
      exact ih.not.not.trans (not_not compiled)

/-- The negation of a test of equality is the test for a difference, and the other way round. -/
theorem not_equality {name : String} {value left right : Expr} {op differing : BinaryOp}
    {negated : Bool} (isConstant : value.isConstant = true)
    (operands : Operands name value left right)
    (compares : op.comparison? = some (.equality negated))
    (differs : differing.comparison? = some (.equality !negated)) :
    Alike context (.not (.binary op left right)) (.binary differing left right) := by
  have varies := operands.isConstant_binary op
  have differingVaries := operands.isConstant_binary differing
  refine of_not_isConstant ?_ differingVaries ?_
  · exact varies
  · rw [Predicate.ofExpr_not varies, Predicate.ofExpr_comparison compares varies,
      Predicate.ofExpr_comparison differs differingVaries,
      Context.comparison_equality_not isConstant operands]
    cases context.comparison (.equality negated) left right <;> rfl

end Expr.Alike

namespace Query

/-- An even number of negations makes no difference to an expression that stands for a predicate,
and an odd number is as good as one. The negation of a test of equality is the test for a
difference, and the other way round, on whichever side the constant stands, and whether the
comparison compiles or not. -/
theorem compileAlike_negations (context : Context) :
    (∀ expr predicate, Predicate.ofExpr context expr = .ok predicate → ∀ count,
        CompileAlike context (Expr.not^[2 * count] expr) expr ∧
          CompileAlike context (Expr.not^[2 * count + 1] expr) expr.not) ∧
      ∀ name value left right, value.isConstant = true → Operands name value left right →
        CompileAlike context (.not (.binary .eq left right)) (.binary .ne left right) ∧
          CompileAlike context (.not (.binary .ne left right)) (.binary .eq left right) := by
  constructor
  · intro expr predicate compiled count
    have even := Expr.Alike.iterate_not compiled count
    refine ⟨compileAlike_of_alike even, ?_⟩
    rw [Function.iterate_succ_apply']
    exact compileAlike_of_alike even.not
  · intro name value left right isConstant operands
    constructor
    · exact compileAlike_of_alike (.not_equality isConstant operands rfl rfl)
    · exact compileAlike_of_alike (.not_equality isConstant operands rfl rfl)

/-- A choice with a constant branch may be negated four times, or five times instead of once; and a
field is not null, with the null on the left, just if it differs from null. -/
theorem compileAlike_negations_choice :
    let context : Context := ⟨.empty, .empty, { unknownFields := .infer }, .epoch⟩
    let differs : Expr := .binary .ne (.field "B") (.constant (.int 1))
    let choice : Expr := .conditional (.field "A") differs (.constant (.bool false))
    let null : Expr := .constant .null
    Predicate.ofExpr context choice =
        .ok (.clause (.and [.not (Term.equality "B" (.int 1)), Term.boolean "A" true])) ∧
      null.isConstant = true ∧ Operands "B" null null (.field "B") ∧
      CompileAlike context (Expr.not^[4] choice) choice ∧
      CompileAlike context (Expr.not^[5] choice) choice.not ∧
      CompileAlike context (.not (.binary .eq null (.field "B")))
        (.binary .ne null (.field "B")) := by
  intro context differs choice null
  have compiled : Predicate.ofExpr context choice =
      .ok (.clause (.and [.not (Term.equality "B" (.int 1)), Term.boolean "A" true])) := rfl
  have operands : Operands "B" null null (.field "B") := .valueFirst
  have negated := (compileAlike_negations context).1 choice _ compiled 2
  have tested := (compileAlike_negations context).2 "B" null _ _ rfl operands
  exact ⟨compiled, rfl, operands, negated.1, negated.2, tested.1⟩

end Query

end ContentQuery
