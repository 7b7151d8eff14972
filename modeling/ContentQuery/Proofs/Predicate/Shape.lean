import ContentQuery.Proofs.Clause.Connective
import ContentQuery.Proofs.Predicate.Rules

/-!
# Shape of predicates

The predicate of an expression is built by the connectives from truth values and from single terms,
negated or not. So its clause has no empty groups.
-/

namespace ContentQuery

namespace Connective

/-- The truth value that changes nothing beside another operand. -/
def neutral : Connective → Bool
  | and => true
  | or => false

/-- Operands in the order in which their clauses are written: those of a conjunction from the last
to the first. -/
def inOrder {Value : Type} : Connective → List Value → List Value
  | and => List.reverse
  | or => id

end Connective

namespace Clause

/-- The clause is one term, negated or not. -/
def IsSigned (clause : Clause) : Prop :=
  ∃ negated leaf, clause = Context.signed negated leaf

theorem isSigned_term (leaf : Term) : (term leaf).IsSigned :=
  ⟨false, leaf, rfl⟩

theorem IsSigned.isFull {clause : Clause} (signed : clause.IsSigned) : clause.IsFull := by
  rcases signed with ⟨negated, leaf, rfl⟩
  cases negated with
  | false => exact isFull_term leaf
  | true => exact isFull_not.mpr (isFull_term leaf)

end Clause

namespace Context

variable {context : Context}

theorem isSigned_of_comparison {comparison : Comparison} {left right : Expr} {clause : Clause}
    (compiled : context.comparison comparison left right = .ok clause) : clause.IsSigned := by
  rcases comparison_eq_ok compiled with
    ⟨operands, value, info, _, _, ⟨negated, compiled⟩ | ⟨op, compiled⟩⟩
  · rcases equality_eq_ok compiled with ⟨holds, rfl⟩ | rfl | ⟨leaf, _, rfl⟩
    · exact Clause.isSigned_term _
    · exact ⟨negated, _, rfl⟩
    · exact ⟨negated, leaf, rfl⟩
  · rcases ordering_eq_ok compiled with ⟨bound, _, rfl⟩
    exact Clause.isSigned_term _

theorem isSigned_of_handlerTest {handler : Handler} {clause : Clause}
    (compiled : context.handlerTest handler = .ok clause) : clause.IsSigned := by
  rcases handlerTest_eq_ok compiled with ⟨name, _, rfl⟩
  exact Clause.isSigned_term _

end Context

namespace Predicate

/-- The property holds of the clause, if the predicate is one. -/
def Satisfies (property : Clause → Prop) : Predicate → Prop
  | constant _ => True
  | clause inner => property inner

/-- The predicate is a truth value or one term, negated or not. -/
def IsAtomic : Predicate → Prop
  | constant _ => True
  | clause inner => inner.IsSigned

variable {context : Context}

/-! ### Rules that give single terms -/

section Rules

variable {property : Clause → Prop} {predicate : Predicate}

theorem satisfies_of_textMatch (ofTerm : ∀ leaf, property (.term leaf)) {method : Method}
    {shape : WildcardShape} {target argument : Expr}
    (compiled : context.textMatch method shape target argument = .ok predicate) :
    predicate.Satisfies property := by
  rcases Context.textMatch_eq_ok compiled with
    ⟨name, inferred, info, value, _, _, ⟨leaf, _, rfl⟩ | matched⟩
  · exact ofTerm leaf
  · rcases Context.pattern_eq_ok matched with rfl | ⟨text, _, rfl⟩
    · trivial
    · exact ofTerm _

/-- A call stands for a truth value or for one term. -/
theorem satisfies_of_call (ofTerm : ∀ leaf, property (.term leaf)) {method : Method} {target : Expr}
    {arguments : List Expr} (compiled : context.call method target arguments = .ok predicate) :
    predicate.Satisfies property := by
  rcases Context.call_eq_ok compiled with
    ⟨argument, rfl, ⟨shape, matched⟩ | ⟨_, inner, filtered, rfl⟩ | ⟨_, inner, placed, rfl⟩⟩
  · exact satisfies_of_textMatch ofTerm matched
  · rcases Context.typeFilter_eq_ok filtered with ⟨_, name, _, rfl⟩
    exact ofTerm _
  · rcases Context.place_eq_ok placed with ⟨_, path, _, rfl⟩
    exact ofTerm _

theorem satisfies_of_ofField (ofTerm : ∀ leaf, property (.term leaf)) {name : String}
    (compiled : ofField context name = .ok predicate) : predicate.Satisfies property := by
  rcases ofField_eq_ok compiled with ⟨info, _, rfl⟩
  exact ofTerm _

theorem isAtomic_iff : predicate.IsAtomic ↔ predicate.Satisfies Clause.IsSigned := by
  cases predicate <;> rfl

theorem isAtomic_of_call {method : Method} {target : Expr} {arguments : List Expr}
    (compiled : context.call method target arguments = .ok predicate) : predicate.IsAtomic :=
  isAtomic_iff.mpr (satisfies_of_call Clause.isSigned_term compiled)

theorem isAtomic_of_ofField {name : String} (compiled : ofField context name = .ok predicate) :
    predicate.IsAtomic :=
  isAtomic_iff.mpr (satisfies_of_ofField Clause.isSigned_term compiled)

end Rules

/-! ### Induction -/

/-- Induction on the expressions that stand for predicates, with one case for each rule. -/
@[elab_as_elim]
theorem ofExpr_induction {motive : Expr → Predicate → Prop}
    (constant : ∀ expr value, expr.isConstant = true →
      expr.evaluate context.time = .ok (.bool value) → motive expr (constant value))
    (field : ∀ name predicate, ofField context name = .ok predicate →
      motive (.field name) predicate)
    (not : ∀ operand inner, motive operand inner → motive (.not operand) inner.not)
    (and : ∀ left right first second, motive left first → motive right second →
      motive (.binary .and left right) (first.and second))
    (or : ∀ left right first second, motive left first → motive right second →
      motive (.binary .or left right) (first.or second))
    (comparison : ∀ op kind left right inner, op.comparison? = some kind →
      context.comparison kind left right = .ok inner →
      motive (.binary op left right) (clause inner))
    (chosen : ∀ test ifTrue ifFalse choice predicate, test.isConstant = true →
      test.evaluateCondition context.time = .ok choice →
      motive (if choice then ifTrue else ifFalse) predicate →
      motive (.conditional test ifTrue ifFalse) predicate)
    (conditional : ∀ test ifTrue ifFalse first second third, motive test first →
      motive ifTrue second → motive ifFalse third →
      motive (.conditional test ifTrue ifFalse) (first.choose second third))
    (call : ∀ method target arguments predicate,
      context.call method target arguments = .ok predicate →
      motive (.call method target arguments) predicate)
    (handlerIs : ∀ handler inner, context.handlerTest handler = .ok inner →
      motive (.handlerIs handler) (clause inner))
    {expr : Expr} {predicate : Predicate} (compiled : ofExpr context expr = .ok predicate) :
    motive expr predicate := by
  fun_induction ofExpr context expr generalizing predicate with
  | case1 expr isConstant =>
      rcases ofConstant_eq_ok.mp compiled with ⟨value, evaluates, rfl⟩
      exact constant expr value isConstant evaluates
  | case2 name => exact field name predicate compiled
  | case3 operand _ ih =>
      rcases bind_eq_ok.mp compiled with ⟨inner, innerCompiled, same⟩
      cases same
      exact not operand inner (ih innerCompiled)
  | case4 left right _ ihLeft ihRight =>
      rcases bind_eq_ok.mp compiled with ⟨first, leftCompiled, compiled⟩
      rcases bind_eq_ok.mp compiled with ⟨second, rightCompiled, same⟩
      cases same
      exact and left right first second (ihLeft leftCompiled) (ihRight rightCompiled)
  | case5 left right _ ihLeft ihRight =>
      rcases bind_eq_ok.mp compiled with ⟨first, leftCompiled, compiled⟩
      rcases bind_eq_ok.mp compiled with ⟨second, rightCompiled, same⟩
      cases same
      exact or left right first second (ihLeft leftCompiled) (ihRight rightCompiled)
  | case6 op left right _ _ kind compares =>
      rcases map_eq_ok.mp compiled with ⟨inner, innerCompiled, rfl⟩
      exact comparison op kind left right inner compares innerCompiled
  | case7 => cases compiled
  | case8 test ifTrue ifFalse testConstant _ ihTrue ihFalse =>
      rcases bind_eq_ok.mp compiled with ⟨choice, decides, compiled⟩
      apply chosen test ifTrue ifFalse choice predicate testConstant decides
      cases choice with
      | true => exact ihTrue compiled
      | false => exact ihFalse compiled
  | case9 test ifTrue ifFalse _ _ ihTest ihTrue ihFalse =>
      rcases bind_eq_ok.mp compiled with ⟨first, testCompiled, compiled⟩
      rcases bind_eq_ok.mp compiled with ⟨second, trueCompiled, compiled⟩
      rcases bind_eq_ok.mp compiled with ⟨third, falseCompiled, same⟩
      cases same
      exact conditional test ifTrue ifFalse first second third (ihTest testCompiled)
        (ihTrue trueCompiled) (ihFalse falseCompiled)
  | case10 method target arguments => exact call method target arguments predicate compiled
  | case11 handler =>
      rcases map_eq_ok.mp compiled with ⟨inner, innerCompiled, rfl⟩
      exact handlerIs handler inner innerCompiled
  | case12 | case13 | case14 | case15 | case16 => cases compiled

/-! ### Connectives -/

/-- The conjunction or the disjunction of two predicates. -/
def join : Connective → Predicate → Predicate → Predicate
  | .and => and
  | .or => or

theorem join_constant_left (connective : Connective) (value : Bool) (other : Predicate) :
    join connective (constant value) other =
      if value = connective.neutral then other else constant value := by
  cases connective <;> cases value <;> rcases other with (_ | _) | _ <;> rfl

theorem join_constant_right (connective : Connective) (value : Bool) (other : Predicate) :
    join connective other (constant value) =
      if value = connective.neutral then other else constant value := by
  cases connective <;> cases value <;> rcases other with (_ | _) | _ <;> rfl

theorem join_clause (connective : Connective) (first second : Clause) :
    join connective (clause first) (clause second) =
      clause (connective.group (connective.inOrder [first, second])) := by
  cases connective <;> rfl

/-- The property is kept by the connectives of clauses. -/
structure KeptByConnectives (property : Clause → Prop) : Prop where
  pair : ∀ (connective : Connective) (first second : Clause), property first → property second →
    property (connective.group [first, second])
  negate : ∀ inner : Clause, property inner → property inner.negate

section Connectives

variable {property : Clause → Prop} {first second third : Predicate}

theorem satisfies_join (kept : KeptByConnectives property) (connective : Connective)
    (firstHolds : first.Satisfies property) (secondHolds : second.Satisfies property) :
    (join connective first second).Satisfies property := by
  cases first with
  | constant value =>
      rw [join_constant_left]
      split
      · exact secondHolds
      · trivial
  | clause left =>
      cases second with
      | constant value =>
          rw [join_constant_right]
          split
          · exact firstHolds
          · trivial
      | clause right =>
          rw [join_clause]
          cases connective with
          | and => exact kept.pair .and right left secondHolds firstHolds
          | or => exact kept.pair .or left right firstHolds secondHolds

theorem satisfies_not (kept : KeptByConnectives property) (holds : first.Satisfies property) :
    first.not.Satisfies property := by
  cases first with
  | constant => trivial
  | clause inner => exact kept.negate inner holds

theorem satisfies_choose (kept : KeptByConnectives property) (testHolds : first.Satisfies property)
    (trueHolds : second.Satisfies property) (falseHolds : third.Satisfies property) :
    (choose first second third).Satisfies property :=
  satisfies_join kept .or (satisfies_join kept .and (satisfies_not kept testHolds) falseHolds)
    (satisfies_join kept .and testHolds trueHolds)

end Connectives

/-! ### Predicates without empty groups -/

/-- The predicate is a truth value or a clause without empty groups. -/
def IsFull : Predicate → Prop
  | constant _ => True
  | clause inner => inner.IsFull

theorem IsAtomic.isFull {predicate : Predicate} (atomic : predicate.IsAtomic) :
    predicate.IsFull := by
  cases predicate with
  | constant => trivial
  | clause inner => exact Clause.IsSigned.isFull atomic

theorem keptByConnectives_isFull : KeptByConnectives Clause.IsFull where
  pair connective first second firstFull secondFull := by
    rw [Clause.isFull_group]
    simp [firstFull, secondFull]
  negate _ := Clause.isFull_negate

/-- The predicate of an expression has no empty groups. -/
theorem isFull_ofExpr {expr : Expr} {predicate : Predicate}
    (compiled : ofExpr context expr = .ok predicate) : predicate.IsFull := by
  refine ofExpr_induction ?_ ?_ ?_ ?_ ?_ ?_ ?_ ?_ ?_ ?_ compiled
  · intro expr value _ _
    trivial
  · intro name predicate fieldCompiled
    exact (isAtomic_of_ofField fieldCompiled).isFull
  · intro operand inner
    exact satisfies_not keptByConnectives_isFull
  · intro left right first second
    exact satisfies_join keptByConnectives_isFull .and
  · intro left right first second
    exact satisfies_join keptByConnectives_isFull .or
  · intro op kind left right inner _ comparisonCompiled
    exact (Context.isSigned_of_comparison comparisonCompiled).isFull
  · intro test ifTrue ifFalse choice predicate _ _ branchFull
    exact branchFull
  · intro test ifTrue ifFalse first second third
    exact satisfies_choose keptByConnectives_isFull
  · intro method target arguments predicate callCompiled
    exact (isAtomic_of_call callCompiled).isFull
  · intro handler inner testCompiled
    exact (Context.isSigned_of_handlerTest testCompiled).isFull

end Predicate

end ContentQuery
