import ContentQuery.Proofs.Clause.Terms
import ContentQuery.Proofs.Predicate.Context

/-!
# Terms of predicates

Each rule for predicates checks what it puts into a term: a field is looked up, a literal has to
have a text, a pattern, a path and the name of a content type must not be empty. So the terms of a
predicate are well formed, whatever the connectives make of them.
-/

namespace ContentQuery

/-- The literal can stand in a term: it is not null, and a float is a number. -/
def Literal.IsWritable : Literal → Prop
  | null => False
  | float value => isFiniteFloat value = true
  | _ => True

/-- The index has the field for a field that the expression names: under the name that the catalog
gives to it or, where unknown fields are inferred and the catalog does not know it, under its own
name. -/
def Context.Indexes (context : Context) (expr : Expr) (indexed : String) : Prop :=
  ∃ name, .field name ∈ expr.parts ∧
    ((∃ info, context.catalog.resolve? name = some info ∧ indexed = info.indexedName) ∨
      (context.options.unknownFields = .infer ∧ context.catalog.resolve? name = none ∧
        indexed = name))

/-- The term stands for something that the expression names, and what it holds can be written. -/
def Term.IsWellFormed (context : Context) (expr : Expr) : Term → Prop
  | equality field value => context.Indexes expr field ∧ value.IsWritable
  | range field _ bound => context.Indexes expr field ∧ bound.IsWritable
  | wildcard field text _ => context.Indexes expr field ∧ text ≠ ""
  | typeFilter typeName _ =>
    (∃ name, Text.isBlankText name = false ∧ typeName = Text.lower name) ∨
      ∃ handler name, .handlerIs handler ∈ expr.parts ∧
        context.registry.typeName? handler = some name ∧ typeName = Text.lower name
  | reference field _ => context.Indexes expr field
  | boolean field _ => context.Indexes expr field
  | scope _ path => ∃ place, Text.isBlankText place = false ∧ path = Text.lower place
  | raw _ => False

/-- All terms of the clause are well formed. -/
def Clause.IsWellFormed (context : Context) (expr : Expr) (clause : Clause) : Prop :=
  ∀ leaf ∈ clause.terms, leaf.IsWellFormed context expr

variable {context : Context} {expr : Expr}

/-! ### Larger expressions -/

theorem Context.Indexes.of_operand {operand : Expr} {indexed : String}
    (indexes : context.Indexes operand indexed) (operandMem : operand ∈ expr.operands) :
    context.Indexes expr indexed := by
  rcases indexes with ⟨name, fieldMem, known⟩
  exact ⟨name, Expr.mem_parts_of_operand operandMem fieldMem, known⟩

theorem Term.IsWellFormed.of_operand {operand : Expr} {leaf : Term}
    (formed : leaf.IsWellFormed context operand) (operandMem : operand ∈ expr.operands) :
    leaf.IsWellFormed context expr := by
  cases leaf with
  | equality | range | wildcard => exact ⟨formed.1.of_operand operandMem, formed.2⟩
  | reference | boolean => exact Context.Indexes.of_operand formed operandMem
  | typeFilter =>
      rcases formed with named | ⟨handler, name, handlerMem, registered⟩
      · exact .inl named
      · exact .inr ⟨handler, name, Expr.mem_parts_of_operand operandMem handlerMem, registered⟩
  | scope => exact formed
  | raw => exact formed.elim

theorem Clause.IsWellFormed.of_operand {operand : Expr} {clause : Clause}
    (formed : clause.IsWellFormed context operand) (operandMem : operand ∈ expr.operands) :
    clause.IsWellFormed context expr :=
  fun leaf leafMem => (formed leaf leafMem).of_operand operandMem

/-! ### Connectives -/

theorem Term.isWellFormed_affirmed {leaf : Term} :
    leaf.affirmed.IsWellFormed context expr ↔ leaf.IsWellFormed context expr := by
  cases leaf <;> rfl

namespace Clause

theorem isWellFormed_iff_affirmedTerms {clause : Clause} :
    clause.IsWellFormed context expr ↔
      ∀ leaf ∈ clause.affirmedTerms, leaf.IsWellFormed context expr := by
  simp only [IsWellFormed, affirmedTerms, List.forall_mem_map, Term.isWellFormed_affirmed]

theorem isWellFormed_term {leaf : Term} (formed : leaf.IsWellFormed context expr) :
    (term leaf).IsWellFormed context expr := by
  simpa [IsWellFormed, terms] using formed

theorem isWellFormed_signed {leaf : Term} (negated : Bool)
    (formed : leaf.IsWellFormed context expr) :
    (Context.signed negated leaf).IsWellFormed context expr := by
  cases negated <;> exact isWellFormed_term formed

theorem keptByConnectives_isWellFormed :
    Predicate.KeptByConnectives (IsWellFormed context expr) where
  pair connective first second firstFormed secondFormed := by
    simp only [IsWellFormed, terms_group, List.flatMap_cons, List.flatMap_nil, List.append_nil,
      List.forall_mem_append]
    exact ⟨firstFormed, secondFormed⟩
  negate inner formed := by
    rw [isWellFormed_iff_affirmedTerms, affirmedTerms_negate]
    exact isWellFormed_iff_affirmedTerms.mp formed

end Clause

/-! ### Rules -/

namespace Context

theorem indexes_of_resolve {name : String} {inferred : FieldType} {info : FieldInfo}
    (fieldMem : .field name ∈ expr.parts) (resolves : context.resolve name inferred = .ok info) :
    context.Indexes expr info.indexedName := by
  refine ⟨name, fieldMem, ?_⟩
  rcases resolve_eq_ok resolves with known | ⟨unknown, infer, rfl⟩
  · exact .inl ⟨info, known, rfl⟩
  · exact .inr ⟨infer, unknown, rfl⟩

theorem isWritable_of_termLiteral {field : String} {value written : Literal}
    (writes : context.termLiteral field value = .ok written) : written.IsWritable := by
  cases value with
  | float value =>
      simp only [termLiteral] at writes
      split at writes
      next finite =>
        cases writes
        exact finite
      next => cases writes
  | _ =>
      cases writes
      trivial

theorem isWellFormed_of_equalityTerm {field : String} {info : FieldInfo} {value : Literal}
    {leaf : Term} (indexes : context.Indexes expr info.indexedName)
    (compiled : context.equalityTerm field info value = .ok leaf) :
    leaf.IsWellFormed context expr := by
  rcases equalityTerm_eq_ok compiled with ⟨target, rfl⟩ | ⟨written, writes, rfl⟩
  · exact indexes
  · exact ⟨indexes, isWritable_of_termLiteral writes⟩

theorem isWellFormed_of_comparison {op : BinaryOp} {comparison : Comparison} {left right : Expr}
    {clause : Clause} (compiled : context.comparison comparison left right = .ok clause) :
    clause.IsWellFormed context (.binary op left right) := by
  rcases comparison_eq_ok compiled with ⟨operands, value, info, found, resolves, compiled⟩
  have operandMem := (FieldComparison.ofOperands_eq_ok found).1
  have indexes : context.Indexes (.binary op left right) info.indexedName :=
    indexes_of_resolve (Expr.mem_parts_of_operand operandMem (Expr.mem_parts_self _)) resolves
  rcases compiled with ⟨negated, compiled⟩ | ⟨op, compiled⟩
  · rcases equality_eq_ok compiled with ⟨holds, rfl⟩ | rfl | ⟨leaf, leafCompiled, rfl⟩
    · exact Clause.isWellFormed_term indexes
    · exact Clause.isWellFormed_signed negated ⟨indexes, trivial⟩
    · exact Clause.isWellFormed_signed negated (isWellFormed_of_equalityTerm indexes leafCompiled)
  · rcases ordering_eq_ok compiled with ⟨bound, writes, rfl⟩
    exact Clause.isWellFormed_term ⟨indexes, isWritable_of_termLiteral writes⟩

theorem isWellFormed_of_handlerTest {handler : Handler} {clause : Clause}
    (compiled : context.handlerTest handler = .ok clause) :
    clause.IsWellFormed context (.handlerIs handler) := by
  rcases handlerTest_eq_ok compiled with ⟨name, registered, rfl⟩
  exact Clause.isWellFormed_term (.inr ⟨handler, name, Expr.mem_parts_self _, registered, rfl⟩)

end Context

namespace Predicate

open Clause (IsWellFormed keptByConnectives_isWellFormed)

theorem isWellFormed_of_textMatch {method : Method} {shape : WildcardShape}
    {target argument : Expr} {predicate : Predicate}
    (compiled : context.textMatch method shape target argument = .ok predicate) :
    predicate.Satisfies (IsWellFormed context (.call method target [argument])) := by
  rcases Context.textMatch_eq_ok compiled with ⟨name, inferred, info, value, rfl, resolves, matched⟩
  have indexes : context.Indexes (.call method (.field name) [argument]) info.indexedName :=
    Context.indexes_of_resolve
      (Expr.mem_parts_of_operand List.mem_cons_self (Expr.mem_parts_self _)) resolves
  rcases matched with ⟨leaf, leafCompiled, rfl⟩ | matched
  · exact Clause.isWellFormed_term (Context.isWellFormed_of_equalityTerm indexes leafCompiled)
  · rcases Context.pattern_eq_ok matched with rfl | ⟨text, notEmpty, rfl⟩
    · trivial
    · exact Clause.isWellFormed_term ⟨indexes, notEmpty⟩

theorem isWellFormed_of_call {method : Method} {target : Expr} {arguments : List Expr}
    {predicate : Predicate} (compiled : context.call method target arguments = .ok predicate) :
    predicate.Satisfies (IsWellFormed context (.call method target arguments)) := by
  rcases Context.call_eq_ok compiled with
    ⟨argument, rfl, ⟨shape, matched⟩ | ⟨_, inner, filtered, rfl⟩ | ⟨_, inner, placed, rfl⟩⟩
  · exact isWellFormed_of_textMatch matched
  · rcases Context.typeFilter_eq_ok filtered with ⟨_, name, notBlank, rfl⟩
    exact Clause.isWellFormed_term (.inl ⟨name, notBlank, rfl⟩)
  · rcases Context.place_eq_ok placed with ⟨_, path, notBlank, rfl⟩
    exact Clause.isWellFormed_term ⟨path, notBlank, rfl⟩

theorem isWellFormed_of_ofField {name : String} {predicate : Predicate}
    (compiled : ofField context name = .ok predicate) :
    predicate.Satisfies (IsWellFormed context (.field name)) := by
  rcases ofField_eq_ok compiled with ⟨info, resolves, rfl⟩
  exact Clause.isWellFormed_term (Context.indexes_of_resolve (Expr.mem_parts_self _) resolves)

theorem isWellFormed_of_operand {operand : Expr} {predicate : Predicate}
    (formed : predicate.Satisfies (IsWellFormed context operand))
    (operandMem : operand ∈ expr.operands) : predicate.Satisfies (IsWellFormed context expr) := by
  cases predicate with
  | constant => trivial
  | clause inner => exact Clause.IsWellFormed.of_operand formed operandMem

/-- The terms of a predicate are well formed. -/
theorem isWellFormed_of_ofExpr {predicate : Predicate}
    (compiled : ofExpr context expr = .ok predicate) :
    predicate.Satisfies (IsWellFormed context expr) := by
  refine ofExpr_induction ?_ ?_ ?_ ?_ ?_ ?_ ?_ ?_ ?_ ?_ compiled
  · intro expr value _ _
    trivial
  · intro name predicate fieldCompiled
    exact isWellFormed_of_ofField fieldCompiled
  · intro operand inner innerFormed
    apply satisfies_not keptByConnectives_isWellFormed
    exact isWellFormed_of_operand innerFormed (by simp [Expr.operands])
  · intro left right first second firstFormed secondFormed
    apply satisfies_join keptByConnectives_isWellFormed .and
    · exact isWellFormed_of_operand firstFormed (by simp [Expr.operands])
    · exact isWellFormed_of_operand secondFormed (by simp [Expr.operands])
  · intro left right first second firstFormed secondFormed
    apply satisfies_join keptByConnectives_isWellFormed .or
    · exact isWellFormed_of_operand firstFormed (by simp [Expr.operands])
    · exact isWellFormed_of_operand secondFormed (by simp [Expr.operands])
  · intro op kind left right inner _ comparisonCompiled
    exact Context.isWellFormed_of_comparison comparisonCompiled
  · intro test ifTrue ifFalse choice predicate _ _ branchFormed
    apply isWellFormed_of_operand branchFormed
    cases choice <;> simp [Expr.operands]
  · intro test ifTrue ifFalse first second third testFormed trueFormed falseFormed
    apply satisfies_choose keptByConnectives_isWellFormed
    · exact isWellFormed_of_operand testFormed (by simp [Expr.operands])
    · exact isWellFormed_of_operand trueFormed (by simp [Expr.operands])
    · exact isWellFormed_of_operand falseFormed (by simp [Expr.operands])
  · intro method target arguments predicate callCompiled
    exact isWellFormed_of_call callCompiled
  · intro handler inner testCompiled
    exact Context.isWellFormed_of_handlerTest testCompiled

end Predicate

end ContentQuery
