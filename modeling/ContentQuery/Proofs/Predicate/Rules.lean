import ContentQuery.Predicate.OfExpr
import ContentQuery.Proofs.Outcome

/-!
# Rules for predicates

What each rule for predicates gives when it succeeds, and what it has found out by then. The shape
of a predicate and the terms in it are read off these statements.
-/

namespace ContentQuery

/-- Of the operands of a comparison, one is its field and one its literal. -/
theorem FieldComparison.ofOperands_eq_ok {comparison : Comparison} {left right : Expr}
    {operands : FieldComparison}
    (found : FieldComparison.ofOperands comparison left right = .ok operands) :
    Expr.field operands.field ∈ [left, right] ∧ operands.literal ∈ [left, right] := by
  simp only [ofOperands] at found
  split at found
  · cases found
  · split at found <;> cases found
    simp
  · split at found <;> cases found
    simp

namespace Context

variable {context : Context}

/-- A field is the one that the catalog knows under its name, or one that is inferred. -/
theorem resolve_eq_ok {name : String} {inferred : FieldType} {info : FieldInfo}
    (resolves : context.resolve name inferred = .ok info) :
    context.catalog.resolve? name = some info ∨
      (context.catalog.resolve? name = none ∧ context.options.unknownFields = .infer ∧
        info = { indexedName := name, type := inferred }) := by
  simp only [resolve] at resolves
  split at resolves
  next known =>
    cases resolves
    exact .inl known
  next => cases resolves
  next unknown infer =>
    cases resolves
    exact .inr ⟨unknown, infer, rfl⟩

/-! ### Comparisons -/

theorem equalityTerm_eq_ok {field : String} {info : FieldInfo} {value : Literal} {leaf : Term}
    (compiled : context.equalityTerm field info value = .ok leaf) :
    (∃ target, leaf = .reference info.indexedName target) ∨
      ∃ written, context.termLiteral field value = .ok written ∧
        leaf = .equality info.indexedName written := by
  simp only [equalityTerm] at compiled
  split at compiled
  · rcases bind_eq_ok.mp compiled with ⟨target, _, same⟩
    cases same
    exact .inl ⟨target, rfl⟩
  · rcases bind_eq_ok.mp compiled with ⟨written, writes, same⟩
    cases same
    exact .inr ⟨written, writes, rfl⟩

/-- A test of equality is a boolean term, or a comparison with the empty text or with a literal,
negated where it asks for a difference. -/
theorem equality_eq_ok {field : String} {info : FieldInfo} {negated : Bool} {value : Literal}
    {clause : Clause} (compiled : context.equality field info negated value = .ok clause) :
    (∃ holds, clause = Term.boolean info.indexedName holds) ∨
      clause = signed negated (.equality info.indexedName (.text "")) ∨
      ∃ leaf, context.equalityTerm field info value = .ok leaf ∧ clause = signed negated leaf := by
  simp only [equality] at compiled
  split at compiled
  · cases compiled
    exact .inl ⟨_, rfl⟩
  · cases compiled
    exact .inr (.inl rfl)
  · cases compiled
    exact .inr (.inl rfl)
  · cases compiled
  · rcases bind_eq_ok.mp compiled with ⟨leaf, leafCompiled, same⟩
    cases same
    exact .inr (.inr ⟨leaf, leafCompiled, rfl⟩)

theorem ordering_eq_ok {field : String} {info : FieldInfo} {op : RangeOp} {bound : Literal}
    {clause : Clause} (compiled : context.ordering field info op bound = .ok clause) :
    ∃ written, context.termLiteral field bound = .ok written ∧
      clause = Term.range info.indexedName op written := by
  simp only [ordering] at compiled
  split at compiled
  · cases compiled
  · rcases bind_eq_ok.mp compiled with ⟨written, writes, same⟩
    cases same
    exact ⟨written, writes, rfl⟩

theorem comparison_eq_ok {comparison : Comparison} {left right : Expr} {clause : Clause}
    (compiled : context.comparison comparison left right = .ok clause) :
    ∃ operands value info, FieldComparison.ofOperands comparison left right = .ok operands ∧
      context.resolve operands.field (.infer value) = .ok info ∧
      ((∃ negated, context.equality operands.field info negated value = .ok clause) ∨
        ∃ op, context.ordering operands.field info op value = .ok clause) := by
  rcases bind_eq_ok.mp compiled with ⟨operands, found, compiled⟩
  rcases bind_eq_ok.mp compiled with ⟨value, _, compiled⟩
  rcases bind_eq_ok.mp compiled with ⟨info, resolves, compiled⟩
  refine ⟨operands, value, info, found, resolves, ?_⟩
  cases comparison with
  | equality negated => exact .inl ⟨negated, compiled⟩
  | ordering op =>
      dsimp only at compiled
      split at compiled
      · exact .inr ⟨_, compiled⟩
      · cases compiled

/-! ### Calls and handler tests -/

theorem requireCandidate_eq_ok {method : Method} {target : Expr} :
    requireCandidate method target = .ok () ↔ target = .candidate := by
  cases target <;> simp [requireCandidate]

theorem pattern_eq_ok {info : FieldInfo} {method : Method} {shape : WildcardShape}
    {value : Literal} {predicate : Predicate}
    (compiled : pattern info method shape value = .ok predicate) :
    predicate = .constant true ∨
      ∃ text, text ≠ "" ∧ predicate = .clause (Term.wildcard info.indexedName text shape) := by
  simp only [pattern] at compiled
  split at compiled
  · cases compiled
  · cases compiled
    split
    next => exact .inl rfl
    next notEmpty => exact .inr ⟨_, by simpa using notEmpty, rfl⟩

theorem textMatch_eq_ok {method : Method} {shape : WildcardShape} {target argument : Expr}
    {predicate : Predicate}
    (compiled : context.textMatch method shape target argument = .ok predicate) :
    ∃ name inferred info value, target = .field name ∧
      context.resolve name inferred = .ok info ∧
      ((∃ leaf : Term, context.equalityTerm name info value = .ok leaf ∧
          predicate = .clause leaf) ∨
        pattern info method shape value = .ok predicate) := by
  rcases bind_eq_ok.mp compiled with ⟨value, _, compiled⟩
  split at compiled
  · rcases bind_eq_ok.mp compiled with ⟨info, resolves, compiled⟩
    refine ⟨_, _, info, value, rfl, resolves, ?_⟩
    split at compiled
    · rcases bind_eq_ok.mp compiled with ⟨leaf, leafCompiled, same⟩
      cases same
      exact .inl ⟨leaf, leafCompiled, rfl⟩
    · exact .inr compiled
  · cases compiled

theorem typeFilter_eq_ok {method : Method} {transitive : Bool} {target argument : Expr}
    {clause : Clause}
    (compiled : context.typeFilter method transitive target argument = .ok clause) :
    target = .candidate ∧ ∃ name, Text.isBlankText name = false ∧
      clause = Term.typeFilter (Text.lower name) transitive := by
  rcases bind_eq_ok.mp compiled with ⟨_, required, compiled⟩
  rcases bind_eq_ok.mp compiled with ⟨value, _, compiled⟩
  refine ⟨requireCandidate_eq_ok.mp required, ?_⟩
  split at compiled
  next name _ =>
    split at compiled
    next => cases compiled
    next notBlank =>
      cases compiled
      exact ⟨name, by simpa using notBlank, rfl⟩
  next => cases compiled

theorem place_eq_ok {method : Method} {kind : ScopeKind} {target argument : Expr}
    {clause : Clause} (compiled : context.place method kind target argument = .ok clause) :
    target = .candidate ∧ ∃ path, Text.isBlankText path = false ∧
      clause = Term.scope kind (Text.lower path) := by
  rcases bind_eq_ok.mp compiled with ⟨_, required, compiled⟩
  rcases bind_eq_ok.mp compiled with ⟨value, _, compiled⟩
  rcases bind_eq_ok.mp compiled with ⟨path, _, compiled⟩
  refine ⟨requireCandidate_eq_ok.mp required, path, ?_⟩
  split at compiled
  next => cases compiled
  next notBlank =>
    cases compiled
    exact ⟨by simpa using notBlank, rfl⟩

/-- A call that stands for a predicate is a text match, a type filter or a place. -/
theorem call_eq_ok {method : Method} {target : Expr} {arguments : List Expr}
    {predicate : Predicate} (compiled : context.call method target arguments = .ok predicate) :
    ∃ argument, arguments = [argument] ∧
      ((∃ shape, context.textMatch method shape target argument = .ok predicate) ∨
        (∃ transitive inner, context.typeFilter method transitive target argument = .ok inner ∧
          predicate = .clause inner) ∨
        ∃ kind inner, context.place method kind target argument = .ok inner ∧
          predicate = .clause inner) := by
  have filtered {transitive : Bool} {argument : Expr}
      (compiled : Predicate.clause <$> context.typeFilter method transitive target argument =
        .ok predicate) :
      ∃ transitive inner, context.typeFilter method transitive target argument = .ok inner ∧
        predicate = .clause inner := by
    rcases map_eq_ok.mp compiled with ⟨inner, innerCompiled, same⟩
    exact ⟨transitive, inner, innerCompiled, same.symm⟩
  have placed {kind : ScopeKind} {argument : Expr}
      (compiled : Predicate.clause <$> context.place method kind target argument =
        .ok predicate) :
      ∃ kind inner, context.place method kind target argument = .ok inner ∧
        predicate = .clause inner := by
    rcases map_eq_ok.mp compiled with ⟨inner, innerCompiled, same⟩
    exact ⟨kind, inner, innerCompiled, same.symm⟩
  simp only [call] at compiled
  split at compiled
  · cases compiled
  · split at compiled
    · exact ⟨_, rfl, .inl ⟨_, compiled⟩⟩
    · exact ⟨_, rfl, .inl ⟨_, compiled⟩⟩
    · exact ⟨_, rfl, .inl ⟨_, compiled⟩⟩
    · exact ⟨_, rfl, .inr (.inl (filtered compiled))⟩
    · exact ⟨_, rfl, .inr (.inl (filtered compiled))⟩
    · exact ⟨_, rfl, .inr (.inr (placed compiled))⟩
    · exact ⟨_, rfl, .inr (.inr (placed compiled))⟩
    · cases compiled

theorem handlerTest_eq_ok {handler : Handler} {clause : Clause}
    (compiled : context.handlerTest handler = .ok clause) :
    ∃ name, context.registry.typeName? handler = some name ∧
      clause = Term.typeFilter (Text.lower name) true := by
  simp only [handlerTest] at compiled
  split at compiled
  next name registered =>
    cases compiled
    exact ⟨name, registered, rfl⟩
  next => cases compiled

end Context

namespace Predicate

variable {context : Context}

theorem ofField_eq_ok {name : String} {predicate : Predicate}
    (compiled : ofField context name = .ok predicate) :
    ∃ info, context.resolve name .bool = .ok info ∧
      predicate = clause (Term.boolean info.indexedName true) := by
  rcases bind_eq_ok.mp compiled with ⟨info, resolves, compiled⟩
  split at compiled
  · cases compiled
    exact ⟨info, resolves, rfl⟩
  · cases compiled

theorem ofConstant_eq_ok {expr : Expr} {predicate : Predicate} :
    ofConstant context expr = .ok predicate ↔
      ∃ value, expr.evaluate context.time = .ok (.bool value) ∧ predicate = constant value := by
  constructor
  · intro compiled
    rcases bind_eq_ok.mp compiled with ⟨literal, evaluates, compiled⟩
    cases literal with
    | bool value =>
        cases compiled
        exact ⟨value, evaluates, rfl⟩
    | _ => cases compiled
  · rintro ⟨value, evaluates, rfl⟩
    exact bind_eq_ok.mpr ⟨.bool value, evaluates, rfl⟩

end Predicate

end ContentQuery
