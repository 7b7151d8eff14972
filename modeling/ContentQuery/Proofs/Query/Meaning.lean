import ContentQuery.Proofs.Predicate.Meaning
import ContentQuery.Proofs.Query.Context

/-!
# Meaning of compiled queries

A query that compiles finds the items of which its expression is true. Where no predicate is left
the expression is true of every item, and where the query is refused for its constant predicate it
is false of every item.
-/

namespace ContentQuery

namespace Query

variable {context : Context} {query : Query} {guardField : String}

theorem lower_eq_ok {lowered : Compilation} :
    query.lower context = .ok lowered ↔
      ∃ predicate normalized sort, query.toPredicate context = .ok predicate ∧
        normalForm context.options.guardField predicate = .ok normalized ∧
        query.indexedSort context = .ok sort ∧
        lowered =
          { query :=
              { predicate := normalized.map (·.clause)
                sort
                page := query.page
                flags := query.flags }
            guarded := normalized.any (·.guarded) } := by
  simp only [lower, bind_eq_ok]
  constructor
  · rintro ⟨predicate, given, normalized, normal, sort, sorts, built⟩
    cases built
    exact ⟨predicate, normalized, sort, given, normal, sorts, rfl⟩
  · rintro ⟨predicate, normalized, sort, given, normal, sorts, rfl⟩
    exact ⟨predicate, given, normalized, normal, sort, sorts, rfl⟩

theorem getD_holds_of_normalForm (item : Item guardField) {predicate : Predicate}
    {normalized : Option Clause.Normalized} (full : predicate.IsFull)
    (succeeds : normalForm guardField predicate = .ok normalized) :
    (normalized.map fun form => form.clause.holds item.satisfies).getD true =
      predicate.holds item.satisfies := by
  cases predicate with
  | constant value =>
      cases value with
      | true =>
          cases succeeds
          rfl
      | false => cases succeeds
  | clause inner =>
      cases succeeds
      rw [Clause.holds_normalize, Clause.meaning_eq_some_holds full]
      rfl

theorem compileQuery_eq_ok {compiled : CompiledQuery}
    (compiles : query.compileQuery context = .ok compiled) :
    ∃ predicate normalized, query.toPredicate context = .ok predicate ∧
      normalForm context.options.guardField predicate = .ok normalized ∧
      compiled.predicate = normalized.map (·.clause) := by
  rcases bind_eq_ok.mp compiles with ⟨compilation, lowers, same⟩
  rcases lower_eq_ok.mp lowers with ⟨predicate, normalized, sort, given, normal, _, rfl⟩
  cases same
  exact ⟨predicate, normalized, given, normal, rfl⟩

theorem toPredicate_ne_constantPredicate :
    query.toPredicate context ≠ refuse .constantPredicate :=
  fun fails => (mends_toPredicate (mendsFor_self context query)).within _ fails rfl

theorem indexedSort_ne_constantPredicate :
    query.indexedSort context ≠ refuse .constantPredicate :=
  fun fails => (mends_indexedSort (mendsFor_self context query)).within _ fails rfl

theorem eq_constant_of_normalForm {predicate : Predicate} {stop : Stop CompileError}
    (fails : normalForm guardField predicate = .error stop) : predicate = .constant false := by
  cases predicate with
  | constant value =>
      cases value with
      | true => cases fails
      | false => rfl
  | clause => cases fails

/-- A query is refused for its constant predicate exactly if the predicate is false. -/
theorem compileQuery_eq_constantPredicate :
    query.compileQuery context = refuse .constantPredicate ↔
      query.toPredicate context = .ok (.constant false) := by
  constructor
  · intro refused
    rcases bind_eq_error.mp refused with fails | ⟨_, _, impossible⟩
    · rcases bind_eq_error.mp fails with fails | ⟨predicate, given, fails⟩
      · exact absurd fails toPredicate_ne_constantPredicate
      · rcases bind_eq_error.mp fails with fails | ⟨_, _, fails⟩
        · rw [given, eq_constant_of_normalForm fails]
        · rcases bind_eq_error.mp fails with fails | ⟨_, _, impossible⟩
          · exact absurd fails indexedSort_ne_constantPredicate
          · cases impossible
    · cases impossible
  · intro given
    have fails : query.lower context = refuse .constantPredicate :=
      bind_eq_error.mpr (.inr ⟨_, given, rfl⟩)
    exact bind_eq_error.mpr (.inl fails)

theorem toPredicate_eq_ofExpr {expr : Expr} (filtered : query.predicate = some expr) :
    query.toPredicate context = Predicate.ofExpr context expr := by
  rw [toPredicate, filtered]

/-- The truth value of the expression of a compiled query is that of the compiled predicate, which
is true where it is missing. -/
theorem means_iff_of_compileQuery {expr : Expr} {compiled : CompiledQuery}
    (filtered : query.predicate = some expr) (compiles : query.compileQuery context = .ok compiled)
    (item : Item context.options.guardField) (value : Bool) :
    expr.Means context item.satisfies value ↔
      value = (compiled.predicate.map (Clause.holds item.satisfies)).getD true := by
  rcases compileQuery_eq_ok compiles with ⟨predicate, normalized, given, normal, same⟩
  rw [toPredicate_eq_ofExpr filtered] at given
  have full := Predicate.isFull_ofExpr given
  rw [same, Option.map_map, Predicate.means_iff_of_ofExpr item given,
    ← getD_holds_of_normalForm item full normal]
  rfl

/-- Compilation preserves meaning: the compiled predicate holds of just those items of which the
expression is true. The expression is true of every item if no predicate is left, and false of every
item if the query is refused for its constant predicate. -/
theorem means_iff_compileQuery {expr : Expr} (filtered : query.predicate = some expr) :
    (∀ compiled clause, query.compileQuery context = .ok compiled →
        compiled.predicate = some clause →
        ∀ (item : Item context.options.guardField) (value : Bool),
          expr.Means context item.satisfies value ↔ value = clause.holds item.satisfies) ∧
      (∀ compiled, query.compileQuery context = .ok compiled → compiled.predicate = none →
        ∀ (item : Item context.options.guardField) (value : Bool),
          expr.Means context item.satisfies value ↔ value = true) ∧
      (query.compileQuery context = refuse .constantPredicate →
        ∀ (item : Item context.options.guardField) (value : Bool),
          expr.Means context item.satisfies value ↔ value = false) := by
  refine ⟨?_, ?_, ?_⟩
  · intro compiled clause compiles present item value
    rw [means_iff_of_compileQuery filtered compiles, present]
    rfl
  · intro compiled compiles missing item value
    rw [means_iff_of_compileQuery filtered compiles, missing]
    rfl
  · intro refused item value
    have given := compileQuery_eq_constantPredicate.mp refused
    rw [toPredicate_eq_ofExpr filtered] at given
    rw [Predicate.means_iff_of_ofExpr item given]
    rfl

/-- A choice between two fields compiles to a disjunction, a comparison of constants that is true to
no predicate, and the conjunction of a field with a false constant is refused. -/
theorem means_iff_compileQuery_outcomes :
    ∃ context : Context,
      (∃ clause,
        compileQuery context
            { predicate := some (.conditional (.field "A") (.not (.field "B")) (.field "C")) } =
          .ok { predicate := some clause } ∧
        ∀ (item : Item context.options.guardField) (value : Bool),
          (Expr.conditional (.field "A") (.not (.field "B")) (.field "C")).Means context
              item.satisfies value ↔
            value = clause.holds item.satisfies) ∧
      (compileQuery context
            { predicate := some (.binary .lt (.constant (.int 1)) (.constant (.int 2))) } =
          .ok { predicate := none } ∧
        ∀ (item : Item context.options.guardField) (value : Bool),
          (Expr.binary .lt (.constant (.int 1)) (.constant (.int 2))).Means context
              item.satisfies value ↔
            value = true) ∧
      compileQuery context
            { predicate := some (.binary .and (.field "A") (.constant (.bool false))) } =
          refuse .constantPredicate ∧
        ∀ (item : Item context.options.guardField) (value : Bool),
          (Expr.binary .and (.field "A") (.constant (.bool false))).Means context
              item.satisfies value ↔
            value = false := by
  let context : Context := ⟨.empty, .empty, { unknownFields := .infer }, .epoch⟩
  have compiles : compileQuery context
      { predicate := some (.conditional (.field "A") (.not (.field "B")) (.field "C")) } =
        .ok { predicate := some (.or [.and [Term.boolean "C" true, Term.boolean "A" false],
          .and [Term.boolean "B" false, Term.boolean "A" true]]) } := rfl
  have vanishes : compileQuery context
      { predicate := some (.binary .lt (.constant (.int 1)) (.constant (.int 2))) } =
        .ok { predicate := none } := rfl
  have refused : compileQuery context
      { predicate := some (.binary .and (.field "A") (.constant (.bool false))) } =
        refuse .constantPredicate := rfl
  refine ⟨context, ⟨_, compiles, ?_⟩, ⟨vanishes, ?_⟩, refused, ?_⟩
  · exact (means_iff_compileQuery rfl).1 _ _ compiles rfl
  · exact (means_iff_compileQuery rfl).2.1 _ vanishes rfl
  · exact (means_iff_compileQuery rfl).2.2 refused

end Query

end ContentQuery
