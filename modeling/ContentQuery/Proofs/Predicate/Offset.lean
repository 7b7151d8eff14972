import ContentQuery.Proofs.Expr.Offset
import ContentQuery.Proofs.Predicate.Literals
import ContentQuery.Proofs.Predicate.Shape

/-!
# Offsets of timestamps in predicates

The rules for predicates look at a timestamp only through its instant. With all timestamps of an
expression in UTC its predicate is the same, in UTC, provided that this holds of the constants that
are evaluated for it.
-/

namespace ContentQuery

open Literal (inUtc)

/-- The term with its timestamp in UTC. -/
abbrev Term.inUtc : Term → Term :=
  mapLiteral Literal.inUtc

/-- The clause with all of its timestamps in UTC. -/
abbrev Clause.inUtc : Clause → Clause :=
  mapLiterals Literal.inUtc

/-- The predicate with all of its timestamps in UTC. -/
abbrev Predicate.inUtc : Predicate → Predicate :=
  mapLiterals Literal.inUtc

theorem FieldType.infer_inUtc (value : Literal) : infer value.inUtc = infer value := by
  cases value <;> rfl

theorem Literal.nodeId_inUtc (field : String) (value : Literal) :
    value.inUtc.nodeId field = value.nodeId field := by
  cases value <;> rfl

/-- The comparison with the timestamps of its constant in UTC. -/
def FieldComparison.inUtc (operands : FieldComparison) : FieldComparison :=
  { operands with literal := operands.literal.inUtc }

theorem FieldComparison.ofOperands_inUtc (comparison : Comparison) (left right : Expr) :
    ofOperands comparison left.inUtc right.inUtc =
      FieldComparison.inUtc <$> ofOperands comparison left right := by
  have sameRefusal (operand : Expr) :
      CompileError.comparedOperand comparison operand.inUtc =
        .comparedOperand comparison operand := by
    rw [CompileError.comparedOperand, Expr.describe_inUtc, CompileError.comparedOperand]
  rw [ofOperands.eq_def, ofOperands.eq_def, Expr.isConstant_inUtc, Expr.isConstant_inUtc]
  cases left.isConstant with
  | true =>
      cases right with
      | field name => rfl
      | _ => exact congrArg refuse (sameRefusal _)
  | false =>
      cases right.isConstant with
      | false => rfl
      | true =>
          cases left with
          | field name => rfl
          | _ => exact congrArg refuse (sameRefusal _)

/-- The method is a predicate that looks at its argument when it is called on the target. -/
def Method.matchesArgument : Method → Expr → Bool
  | startsWith, _ | endsWith, _ | contains, _ => true
  | type, .candidate | typeIs, .candidate | inFolder, .candidate | inTree, .candidate => true
  | _, _ => false

namespace Context

variable {context : Context}

/-! ### Rules -/

theorem termLiteral_inUtc (field : String) (value : Literal) :
    context.termLiteral field value.inUtc = inUtc <$> context.termLiteral field value := by
  cases value with
  | float value =>
      simp only [inUtc, termLiteral]
      split <;> rfl
  | _ => rfl

theorem equalityTerm_inUtc (field : String) (info : FieldInfo) (value : Literal) :
    context.equalityTerm field info value.inUtc =
      Term.inUtc <$> context.equalityTerm field info value := by
  rw [equalityTerm, equalityTerm, Literal.nodeId_inUtc, termLiteral_inUtc]
  split
  · cases value.nodeId field <;> rfl
  · cases context.termLiteral field value <;> rfl

theorem equality_inUtc (field : String) (info : FieldInfo) (negated : Bool) (value : Literal) :
    context.equality field info negated value.inUtc =
      Clause.inUtc <$> context.equality field info negated value := by
  have sameSigned :
      (do return signed negated (← context.equalityTerm field info value.inUtc)) =
        Clause.inUtc <$>
          (do return signed negated (← context.equalityTerm field info value) :
            Except (Stop CompileError) Clause) := by
    rw [equalityTerm_inUtc]
    cases context.equalityTerm field info value with
    | error error => rfl
    | ok leaf => exact congrArg Except.ok (mapLiterals_signed negated leaf).symm
  have sameNull := @mapLiterals_signed inUtc negated (.equality info.indexedName (.text ""))
  rw [equality.eq_def, equality.eq_def]
  cases info.type with
  | bool =>
      cases value with
      | null => exact congrArg Except.ok sameNull.symm
      | _ => rfl
  | reference =>
      cases value with
      | null => exact congrArg Except.ok sameNull.symm
      | _ => exact sameSigned
  | _ => exact sameSigned

theorem ordering_inUtc (field : String) (info : FieldInfo) (op : RangeOp) (bound : Literal) :
    context.ordering field info op bound.inUtc =
      Clause.inUtc <$> context.ordering field info op bound := by
  have sameNull : bound.inUtc.isNull = bound.isNull := by cases bound <;> rfl
  rw [ordering, ordering, sameNull, termLiteral_inUtc]
  split
  · rfl
  · cases context.termLiteral field bound <;> rfl

theorem pattern_inUtc (info : FieldInfo) (method : Method) (shape : WildcardShape)
    (value : Literal) :
    pattern info method shape value.inUtc =
      Predicate.inUtc <$> pattern info method shape value := by
  simp only [pattern, Literal.matchText_inUtc, CompileError.textArgument, Literal.kind_inUtc]
  split
  · rfl
  · split <;> rfl

theorem callTarget_inUtc (method : Method) (target : Expr) :
    CompileError.callTarget method target.inUtc = .callTarget method target := by
  rw [CompileError.callTarget, CompileError.callTarget, Expr.describe_inUtc]

theorem requireCandidate_inUtc (method : Method) (target : Expr) :
    requireCandidate method target.inUtc = requireCandidate method target := by
  cases target with
  | candidate => rfl
  | _ => exact congrArg refuse (callTarget_inUtc method _)

theorem placePath_inUtc (method : Method) (value : Literal) :
    placePath method value.inUtc = placePath method value := by
  cases value <;> rfl

/-! ### Constants -/

theorem evaluate_inUtc {expr : Expr} (inRange : expr.RangeAgreesInUtc context.time) :
    expr.inUtc.evaluate context.time = inUtc <$> expr.evaluate context.time :=
  expr.evaluate_inUtc inRange

theorem evaluateCondition_inUtc {expr : Expr} (inRange : expr.RangeAgreesInUtc context.time) :
    expr.inUtc.evaluateCondition context.time = expr.evaluateCondition context.time :=
  (expr.evaluate_inUtc inRange).condition

theorem comparison_inUtc (comparison : Comparison) {left right : Expr}
    (inRange : ∀ operands, FieldComparison.ofOperands comparison left right = .ok operands →
      operands.literal.RangeAgreesInUtc context.time) :
    context.comparison comparison left.inUtc right.inUtc =
      Clause.inUtc <$> context.comparison comparison left right := by
  rw [Context.comparison.eq_def, Context.comparison.eq_def, FieldComparison.ofOperands_inUtc]
  apply map_bind_eq_map
  intro operands found
  rw [FieldComparison.inUtc, evaluate_inUtc (inRange operands found)]
  apply map_bind_eq_map
  intro value _
  rw [FieldType.infer_inUtc]
  cases context.resolve operands.field (.infer value) with
  | error error => rfl
  | ok info =>
      cases comparison with
      | equality negated => exact equality_inUtc operands.field info negated value
      | ordering op =>
          change (if info.type.isOrderable then _ else _) =
            Clause.inUtc <$> if info.type.isOrderable then _ else _
          split
          · exact ordering_inUtc operands.field info _ value
          · rfl

variable {method : Method} {target argument : Expr}

theorem constantArgument_inUtc
    (inRange : argument.isConstant = true → argument.RangeAgreesInUtc context.time) :
    context.constantArgument method argument.inUtc =
      inUtc <$> context.constantArgument method argument := by
  rw [constantArgument, constantArgument, Expr.isConstant_inUtc]
  split
  · rename_i isConstant
    exact evaluate_inUtc (inRange isConstant)
  · rfl

theorem textMatch_inUtc (shape : WildcardShape)
    (inRange : argument.isConstant = true → argument.RangeAgreesInUtc context.time) :
    context.textMatch method shape target.inUtc argument.inUtc =
      Predicate.inUtc <$> context.textMatch method shape target argument := by
  rw [textMatch.eq_def, textMatch.eq_def, constantArgument_inUtc inRange]
  apply map_bind_eq_map
  intro value _
  cases target with
  | field name =>
      simp only [Expr.inUtc, FieldType.infer_inUtc]
      cases context.resolve name (if shape = .contains then .infer value else .text) with
      | error error => rfl
      | ok info =>
          change (if (shape = .contains && info.multivalued) = true then _ else _) =
            Predicate.inUtc <$> if (shape = .contains && info.multivalued) = true then _ else _
          split
          · rw [equalityTerm_inUtc]
            cases context.equalityTerm name info value <;> rfl
          · exact pattern_inUtc info method shape value
  | _ => exact congrArg refuse (callTarget_inUtc method _)

theorem typeFilter_inUtc (transitive : Bool)
    (inRange : target = .candidate → argument.isConstant = true →
      argument.RangeAgreesInUtc context.time) :
    context.typeFilter method transitive target.inUtc argument.inUtc =
      Clause.inUtc <$> context.typeFilter method transitive target argument := by
  rw [typeFilter.eq_def, typeFilter.eq_def, requireCandidate_inUtc]
  cases target with
  | candidate =>
      rw [constantArgument_inUtc (inRange rfl)]
      apply map_bind_eq_map
      intro value _
      cases value with
      | text name =>
          change (if Text.isBlankText name = true then _ else _) =
            Clause.inUtc <$> if Text.isBlankText name = true then _ else _
          split <;> rfl
      | _ => rfl
  | _ => rfl

theorem place_inUtc (kind : ScopeKind)
    (inRange : target = .candidate → argument.isConstant = true →
      argument.RangeAgreesInUtc context.time) :
    context.place method kind target.inUtc argument.inUtc =
      Clause.inUtc <$> context.place method kind target argument := by
  rw [place.eq_def, place.eq_def, requireCandidate_inUtc]
  cases target with
  | candidate =>
      rw [constantArgument_inUtc (inRange rfl)]
      apply map_bind_eq_map
      intro value _
      rw [placePath_inUtc]
      cases placePath method value with
      | error error => rfl
      | ok path =>
          change (if Text.isBlankText path = true then _ else _) =
            Clause.inUtc <$> if Text.isBlankText path = true then _ else _
          split <;> rfl
  | _ => rfl

theorem call_inUtc {arguments : List Expr}
    (inRange : ∀ argument, arguments = [argument] → method.matchesArgument target = true →
      argument.isConstant = true → argument.RangeAgreesInUtc context.time) :
    context.call method target.inUtc (Expr.allInUtc arguments) =
      Predicate.inUtc <$> context.call method target arguments := by
  match arguments with
  | [argument] =>
      cases method with
      | startsWith => exact textMatch_inUtc .startsWith (inRange argument rfl rfl)
      | endsWith => exact textMatch_inUtc .endsWith (inRange argument rfl rfl)
      | contains => exact textMatch_inUtc .contains (inRange argument rfl rfl)
      | type | typeIs =>
          apply Predicate.map_clause_mapLiterals
          apply typeFilter_inUtc
          rintro rfl
          exact inRange argument rfl rfl
      | inFolder | inTree =>
          apply Predicate.map_clause_mapLiterals
          apply place_inUtc
          rintro rfl
          exact inRange argument rfl rfl
      | _ => rfl
  | [] => cases method <;> rfl
  | first :: second :: rest =>
      have tooMany : rest.length + 1 + 1 ≠ method.arity := by cases method <;> simp [Method.arity]
      simp only [call, Expr.allInUtc_eq_map, List.length_map, List.length_cons, if_pos tooMany]
      rfl

end Context

namespace Predicate

variable {context : Context}

/-- The dates that the time shifts in an expression start from and lead to when its predicate is
found. Constants that are not evaluated for it add none. -/
def shiftedDates (context : Context) (expr : Expr) : List Moment :=
  if expr.isConstant then expr.shiftedDates context.time
  else
    match expr with
    | .not operand => shiftedDates context operand
    | .binary .and left right | .binary .or left right =>
      shiftedDates context left ++
        metAfter (ofExpr context left) fun _ => shiftedDates context right
    | .binary op left right =>
      op.comparison?.elim [] fun comparison =>
        metAfter (FieldComparison.ofOperands comparison left right) fun operands =>
          operands.literal.shiftedDates context.time
    | .conditional test ifTrue ifFalse =>
      if test.isConstant then
        test.shiftedDates context.time ++
          metAfter (test.evaluateCondition context.time) fun holds =>
            if holds then shiftedDates context ifTrue else shiftedDates context ifFalse
      else
        shiftedDates context test ++
          metAfter (ofExpr context test) fun _ => shiftedDates context ifTrue ++
            metAfter (ofExpr context ifTrue) fun _ => shiftedDates context ifFalse
    | .call method target [argument] =>
      if method.matchesArgument target && argument.isConstant then
        argument.shiftedDates context.time
      else []
    | _ => []

/-- With all timestamps in UTC an expression has the same predicate in UTC, or it is refused with
the same error. -/
theorem ofExpr_inUtc (expr : Expr)
    (inRange : ∀ date ∈ shiftedDates context expr, date.RangeAgreesInUtc) :
    ofExpr context expr.inUtc = inUtc <$> ofExpr context expr := by
  -- along the rules of `ofExpr`; what comes after an operand is looked at only if the operand has
  -- a predicate
  fun_induction ofExpr context expr with
  | case1 expr isConstant =>
      rw [shiftedDates.eq_def, if_pos isConstant] at inRange
      rw [ofExpr.eq_def, Expr.isConstant_inUtc, if_pos isConstant, ofConstant, ofConstant,
        Context.evaluate_inUtc inRange]
      apply map_bind_eq_map
      intro value _
      cases value <;> rfl
  | case2 name =>
      change ofField context name = inUtc <$> ofField context name
      rw [ofField]
      cases context.resolve name .bool with
      | error error => rfl
      | ok info =>
          change (if info.type = .bool then _ else _) = inUtc <$> if info.type = .bool then _ else _
          split <;> rfl
  | case3 operand notConstant ih =>
      rw [shiftedDates.eq_def, if_neg notConstant] at inRange
      rw [ofExpr.eq_def, Expr.isConstant_inUtc, if_neg notConstant]
      simp only [Expr.inUtc]
      rw [ih inRange]
      apply map_bind_eq_map
      intro inner _
      exact congrArg Except.ok inner.not_mapLiterals
  | case4 one other notConstant ihOne ihOther =>
      rw [shiftedDates.eq_def, if_neg notConstant] at inRange
      rcases List.forall_mem_append.mp inRange with ⟨oneInRange, otherInRange⟩
      rw [ofExpr.eq_def, Expr.isConstant_inUtc, if_neg notConstant]
      simp only [Expr.inUtc]
      apply join_mapLiterals and_mapLiterals (ihOne oneInRange)
      intro onePredicate lowers
      rw [metAfter_of_eq_ok lowers] at otherInRange
      exact ihOther otherInRange
  | case5 one other notConstant ihOne ihOther =>
      rw [shiftedDates.eq_def, if_neg notConstant] at inRange
      rcases List.forall_mem_append.mp inRange with ⟨oneInRange, otherInRange⟩
      rw [ofExpr.eq_def, Expr.isConstant_inUtc, if_neg notConstant]
      simp only [Expr.inUtc]
      apply join_mapLiterals or_mapLiterals (ihOne oneInRange)
      intro onePredicate lowers
      rw [metAfter_of_eq_ok lowers] at otherInRange
      exact ihOther otherInRange
  | case6 op one other notAnd notOr comparison compares notConstant =>
      rw [shiftedDates.eq_def, if_neg notConstant] at inRange
      rw [ofExpr.eq_def, Expr.isConstant_inUtc, if_neg notConstant]
      simp only [Expr.inUtc, compares] at inRange ⊢
      apply map_clause_mapLiterals
      apply Context.comparison_inUtc
      intro operands found
      simp only [Option.elim, metAfter_of_eq_ok found] at inRange
      exact inRange
  | case7 op one other notAnd notOr noComparison notConstant =>
      rw [ofExpr.eq_def, Expr.isConstant_inUtc, if_neg notConstant]
      simp only [Expr.inUtc, noComparison]
      rfl
  | case8 test ifTrue ifFalse testConstant notConstant ihTrue ihFalse =>
      rw [shiftedDates.eq_def, if_neg notConstant] at inRange
      simp only [if_pos testConstant] at inRange
      rcases List.forall_mem_append.mp inRange with ⟨testInRange, branchInRange⟩
      rw [ofExpr.eq_def, Expr.isConstant_inUtc, if_neg notConstant]
      simp only [Expr.inUtc, Expr.isConstant_inUtc, if_pos testConstant]
      rw [Context.evaluateCondition_inUtc testInRange]
      cases decides : test.evaluateCondition context.time with
      | error error => rfl
      | ok holds =>
          rw [metAfter_of_eq_ok decides] at branchInRange
          cases holds with
          | true => exact ihTrue branchInRange
          | false => exact ihFalse branchInRange
  | case9 test ifTrue ifFalse testVaries notConstant ihTest ihTrue ihFalse =>
      rw [shiftedDates.eq_def, if_neg notConstant] at inRange
      simp only [if_neg testVaries] at inRange
      rcases List.forall_mem_append.mp inRange with ⟨testInRange, branchesInRange⟩
      rw [ofExpr.eq_def, Expr.isConstant_inUtc, if_neg notConstant]
      simp only [Expr.inUtc, Expr.isConstant_inUtc, if_neg testVaries]
      rw [ihTest testInRange]
      apply map_bind_eq_map
      intro testPredicate testLowers
      rw [metAfter_of_eq_ok testLowers] at branchesInRange
      rcases List.forall_mem_append.mp branchesInRange with ⟨trueInRange, falseInRange⟩
      rw [ihTrue trueInRange]
      apply map_bind_eq_map
      intro truePredicate trueLowers
      rw [metAfter_of_eq_ok trueLowers] at falseInRange
      rw [ihFalse falseInRange]
      apply map_bind_eq_map
      intro falsePredicate _
      exact congrArg Except.ok (testPredicate.choose_mapLiterals truePredicate falsePredicate)
  | case10 method target arguments notConstant =>
      rw [ofExpr.eq_def, Expr.isConstant_inUtc, if_neg notConstant]
      simp only [Expr.inUtc]
      apply Context.call_inUtc
      rintro argument rfl matched argumentConstant
      rw [shiftedDates.eq_def, if_neg notConstant] at inRange
      simp only [matched, argumentConstant] at inRange
      exact inRange
  | case11 handler =>
      change _ <$> context.handlerTest handler = inUtc <$> _ <$> context.handlerTest handler
      rw [Context.handlerTest]
      split <;> rfl
  | case12 value notConstant => exact absurd rfl notConstant
  | case13 => rfl
  | case14 notConstant | case15 notConstant => exact absurd rfl notConstant
  | case16 operand notConstant =>
      rw [ofExpr.eq_def, Expr.isConstant_inUtc, if_neg notConstant]
      rfl

end Predicate

end ContentQuery
