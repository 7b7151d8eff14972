import ContentQuery.Proofs.Expr.Failure
import ContentQuery.Proofs.Predicate.Shape

/-!
# Predicates in two contexts

The predicate of an expression depends on a context only through what the expression names: its
fields, its handlers, and the time if it names that. Here this is said of two contexts of which the
second may also resolve fields that the first cannot. So it covers contexts that agree, for which
the outcomes are the same, and a context beside itself, for which it says which errors there are.
-/

namespace ContentQuery

open Stop (IsInvalidConstant IsOfRule)

namespace Context

/-- In all that an expression names, the second context mends the first: fields may be resolved by
the second alone, and everything else is the same. -/
structure MendsFor (mended kept : Stop CompileError → Prop) (first second : Context) (expr : Expr) :
    Prop where
  kept_of_rule : ∀ stop, stop.IsOfRule → kept stop
  lowercaseTerms : first.options.lowercaseTerms = second.options.lowercaseTerms
  time : expr.NamesTime → readClock first.time = readClock second.time
  typeName? : ∀ handler, .handlerIs handler ∈ expr.parts →
    first.registry.typeName? handler = second.registry.typeName? handler
  resolve : ∀ name inferred, .field name ∈ expr.parts →
    Mends mended kept (first.resolve name inferred) (second.resolve name inferred)

variable {mended kept : Stop CompileError → Prop} {first second : Context} {expr : Expr}

namespace MendsFor

theorem operand {operand : Expr} (mends : MendsFor mended kept first second expr)
    (operandMem : operand ∈ expr.operands) : MendsFor mended kept first second operand where
  kept_of_rule := mends.kept_of_rule
  lowercaseTerms := mends.lowercaseTerms
  time named := mends.time (named.of_operand operandMem)
  typeName? handler handlerMem :=
    mends.typeName? handler (Expr.mem_parts_of_operand operandMem handlerMem)
  resolve name inferred fieldMem :=
    mends.resolve name inferred (Expr.mem_parts_of_operand operandMem fieldMem)

theorem within (mends : MendsFor mended kept first second expr) {Value : Type}
    {outcome : Except (Stop CompileError) Value} (ofRule : FailsWithin IsOfRule outcome) :
    FailsWithin kept outcome :=
  ofRule.weaken mends.kept_of_rule

theorem refl (mends : MendsFor mended kept first second expr) {Value : Type}
    {outcome : Except (Stop CompileError) Value} (ofRule : FailsWithin IsOfRule outcome) :
    Mends mended kept outcome outcome :=
  .refl (mends.within ofRule)

theorem evaluate (mends : MendsFor mended kept first second expr) :
    Mends mended kept (expr.evaluate first.time) (expr.evaluate second.time) := by
  rw [expr.evaluate_eq_of_readClock mends.time]
  exact mends.refl ((expr.failsWithin_evaluate second.time).weaken fun _ => Expr.CanCause.isOfRule)

theorem evaluateCondition (mends : MendsFor mended kept first second expr) :
    Mends mended kept (expr.evaluateCondition first.time) (expr.evaluateCondition second.time) := by
  apply mends.evaluate.bind
  intro value
  exact mends.refl (value.failsWithin_condition.weaken fun _ => IsInvalidConstant.isOfRule)

end MendsFor

/-! ### Rules -/

theorem termLiteral_eq (same : first.options.lowercaseTerms = second.options.lowercaseTerms) :
    first.termLiteral = second.termLiteral := by
  funext field value
  cases value <;> simp only [termLiteral, same]

theorem equalityTerm_eq (same : first.options.lowercaseTerms = second.options.lowercaseTerms) :
    first.equalityTerm = second.equalityTerm := by
  funext field info value
  simp only [equalityTerm, termLiteral_eq same]

theorem equality_eq (same : first.options.lowercaseTerms = second.options.lowercaseTerms) :
    first.equality = second.equality := by
  funext field info negated value
  simp only [equality, equalityTerm_eq same]

theorem ordering_eq (same : first.options.lowercaseTerms = second.options.lowercaseTerms) :
    first.ordering = second.ordering := by
  funext field info op bound
  simp only [ordering, termLiteral_eq same]

theorem mends_comparison {op : BinaryOp} {left right : Expr}
    (mends : MendsFor mended kept first second (.binary op left right)) (comparison : Comparison) :
    Mends mended kept (first.comparison comparison left right)
      (second.comparison comparison left right) := by
  apply Mends.bind_of_ok (mends.within (failsWithin_ofOperands comparison left right))
  intro operands found
  rcases FieldComparison.ofOperands_eq_ok found with ⟨fieldMem, literalMem⟩
  apply (mends.operand literalMem).evaluate.bind
  intro value
  apply ((mends.operand fieldMem).resolve _ _ (Expr.mem_parts_self _)).bind
  intro info
  rw [equality_eq mends.lowercaseTerms, ordering_eq mends.lowercaseTerms]
  apply mends.refl
  cases comparison with
  | equality negated => exact second.failsWithin_equality operands.field info negated value
  | ordering op =>
      dsimp only
      split
      · exact second.failsWithin_ordering operands.field info _ value
      · exact .error trivial

theorem mends_constantArgument (mends : MendsFor mended kept first second expr) (method : Method) :
    Mends mended kept (first.constantArgument method expr)
      (second.constantArgument method expr) := by
  simp only [constantArgument]
  split
  · exact mends.evaluate
  · exact mends.refl (.error trivial)

theorem mends_textMatch {method : Method} {target argument : Expr}
    (mends : MendsFor mended kept first second (.call method target [argument]))
    (shape : WildcardShape) :
    Mends mended kept (first.textMatch method shape target argument)
      (second.textMatch method shape target argument) := by
  have targetMends : MendsFor mended kept first second target :=
    mends.operand (by simp [Expr.operands])
  have argumentMends : MendsFor mended kept first second argument :=
    mends.operand (by simp [Expr.operands])
  apply (mends_constantArgument argumentMends method).bind
  intro value
  cases target with
  | field name =>
      apply (targetMends.resolve name _ (Expr.mem_parts_self _)).bind
      intro info
      rw [equalityTerm_eq mends.lowercaseTerms]
      apply mends.refl
      split
      · exact (second.failsWithin_equalityTerm name info value).bind fun leaf => .ok _
      · exact failsWithin_pattern info method shape value
  | _ => exact mends.refl (.error trivial)

theorem mends_typeFilter {method : Method} {target argument : Expr}
    (mends : MendsFor mended kept first second (.call method target [argument]))
    (transitive : Bool) :
    Mends mended kept (first.typeFilter method transitive target argument)
      (second.typeFilter method transitive target argument) := by
  apply Mends.bind_of_ok (mends.within (failsWithin_requireCandidate method target))
  intro _ _
  apply (mends_constantArgument (mends.operand (by simp [Expr.operands])) method).bind
  intro value
  apply mends.refl
  split
  · split
    · exact .error trivial
    · exact .ok _
  · exact .error trivial

theorem mends_place {method : Method} {target argument : Expr}
    (mends : MendsFor mended kept first second (.call method target [argument]))
    (kind : ScopeKind) :
    Mends mended kept (first.place method kind target argument)
      (second.place method kind target argument) := by
  apply Mends.bind_of_ok (mends.within (failsWithin_requireCandidate method target))
  intro _ _
  apply (mends_constantArgument (mends.operand (by simp [Expr.operands])) method).bind
  intro value
  apply mends.refl
  apply (failsWithin_placePath method value).bind
  intro path
  split
  · exact .error trivial
  · exact .ok _

theorem mends_call {method : Method} {target : Expr} {arguments : List Expr}
    (mends : MendsFor mended kept first second (.call method target arguments)) :
    Mends mended kept (first.call method target arguments)
      (second.call method target arguments) := by
  simp only [call]
  split
  · exact mends.refl (.error trivial)
  · split
    · exact mends_textMatch mends .startsWith
    · exact mends_textMatch mends .endsWith
    · exact mends_textMatch mends .contains
    · exact (mends_typeFilter mends false).map
    · exact (mends_typeFilter mends true).map
    · exact (mends_place mends .inFolder).map
    · exact (mends_place mends .inTree).map
    · exact mends.refl (.error trivial)

theorem mends_handlerTest {handler : Handler}
    (mends : MendsFor mended kept first second (.handlerIs handler)) :
    Mends mended kept (first.handlerTest handler) (second.handlerTest handler) := by
  simp only [handlerTest, mends.typeName? handler (Expr.mem_parts_self _)]
  exact mends.refl (second.failsWithin_handlerTest handler)

end Context

namespace Predicate

open Context (MendsFor)

variable {mended kept : Stop CompileError → Prop} {first second : Context} {expr : Expr}

theorem mends_ofConstant (mends : MendsFor mended kept first second expr) :
    Mends mended kept (ofConstant first expr) (ofConstant second expr) := by
  apply mends.evaluate.bind
  intro value
  cases value with
  | bool holds => exact mends.refl (.ok _)
  | _ => exact mends.refl (.error trivial)

theorem mends_ofField {name : String} (mends : MendsFor mended kept first second (.field name)) :
    Mends mended kept (ofField first name) (ofField second name) := by
  apply (mends.resolve name .bool (Expr.mem_parts_self _)).bind
  intro info
  apply mends.refl
  split
  · exact .ok _
  · exact .error trivial

/-- If one context mends another in what an expression names, then so does the predicate. -/
theorem mends_ofExpr (mends : MendsFor mended kept first second expr) :
    Mends mended kept (ofExpr first expr) (ofExpr second expr) := by
  fun_induction ofExpr first expr with
  | case1 expr isConstant =>
      rw [ofExpr.eq_def, if_pos isConstant]
      exact mends_ofConstant mends
  | case2 name => exact mends_ofField mends
  | case3 operand notConstant ih =>
      rw [ofExpr.eq_def second, if_neg notConstant]
      apply (ih (mends.operand (by simp [Expr.operands]))).bind
      intro inner
      exact mends.refl (.ok _)
  | case4 one other notConstant ihOne ihOther | case5 one other notConstant ihOne ihOther =>
      rw [ofExpr.eq_def second, if_neg notConstant]
      apply (ihOne (mends.operand (by simp [Expr.operands]))).bind
      intro onePredicate
      apply (ihOther (mends.operand (by simp [Expr.operands]))).bind
      intro otherPredicate
      exact mends.refl (.ok _)
  | case6 op one other notAnd notOr comparison compares notConstant =>
      rw [ofExpr.eq_def second, if_neg notConstant]
      simp only [compares]
      exact (Context.mends_comparison mends comparison).map
  | case7 op one other notAnd notOr noComparison notConstant =>
      rw [ofExpr.eq_def second, if_neg notConstant]
      simp only [noComparison]
      exact mends.refl (.error trivial)
  | case8 test ifTrue ifFalse testConstant notConstant ihTrue ihFalse =>
      rw [ofExpr.eq_def second, if_neg notConstant]
      simp only [testConstant, if_true]
      apply (mends.operand (by simp [Expr.operands])).evaluateCondition.bind
      intro holds
      split
      · exact ihTrue (mends.operand (by simp [Expr.operands]))
      · exact ihFalse (mends.operand (by simp [Expr.operands]))
  | case9 test ifTrue ifFalse testVaries notConstant ihTest ihTrue ihFalse =>
      rw [ofExpr.eq_def second, if_neg notConstant]
      simp only [testVaries]
      apply (ihTest (mends.operand (by simp [Expr.operands]))).bind
      intro testPredicate
      apply (ihTrue (mends.operand (by simp [Expr.operands]))).bind
      intro truePredicate
      apply (ihFalse (mends.operand (by simp [Expr.operands]))).bind
      intro falsePredicate
      exact mends.refl (.ok _)
  | case10 method target arguments notConstant =>
      rw [ofExpr.eq_def second, if_neg notConstant]
      exact Context.mends_call mends
  | case11 handler => exact (Context.mends_handlerTest mends).map
  | case12 | case13 | case14 | case15 | case16 =>
      rename_i notConstant
      rw [ofExpr.eq_def second, if_neg notConstant]
      exact mends.refl (.error trivial)

end Predicate

end ContentQuery
