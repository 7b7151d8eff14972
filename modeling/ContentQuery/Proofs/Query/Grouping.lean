import ContentQuery.Proofs.Clause.Terms
import ContentQuery.Proofs.Predicate.Grouping
import ContentQuery.Proofs.Query.Meaning
import ContentQuery.Query.Builder

/-!
# Queries with grouped filters

Normalization sees no difference between the groupings of the same operands, nor does it matter
whether operands are joined in one filter or given in filters one after the other. The main
statement says so, and it says in which order the terms of the operands come out.
-/

namespace ContentQuery

namespace Grouping

theorem operands_ne_nil (grouping : Grouping) : grouping.operands ≠ [] := by
  induction grouping with
  | operand expr => simp [operands]
  | pair left right ihLeft _ => simp [operands, ihLeft]

theorem operands_foldl_pair (first : Grouping) (rest : List Grouping) :
    (rest.foldl pair first).operands = first.operands ++ rest.flatMap operands := by
  induction rest generalizing first with
  | nil => simp
  | cons next rest ih => rw [List.foldl_cons, ih, operands, List.flatMap_cons, List.append_assoc]

end Grouping

namespace Query

variable {context : Context} {query : Query}

theorem filter_of_unfiltered (unfiltered : query.predicate = none) (expr : Expr) :
    query.filter expr = { query with predicate := some expr } := by
  simp [filter, unfiltered]

/-- Filters one after the other are one filter, grouped to the left. -/
theorem foldl_filter (unfiltered : query.predicate = none) (first : Grouping)
    (rest : List Grouping) :
    (rest.map (Grouping.expr .and)).foldl filter (query.filter (first.expr .and)) =
      query.filter ((rest.foldl .pair first).expr .and) := by
  induction rest generalizing first with
  | nil => rfl
  | cons next rest ih =>
      have joined : (query.filter (first.expr .and)).filter (next.expr .and) =
          query.filter ((first.pair next).expr .and) := by
        rw [filter_of_unfiltered unfiltered, filter_of_unfiltered unfiltered]
        rfl
      rw [List.map_cons, List.foldl_cons, joined, ih, List.foldl_cons]

theorem normalForm_eq_of_reduced_eq {first second : Predicate} (guardField : String)
    (same : first.reduced = second.reduced) :
    normalForm guardField first = normalForm guardField second := by
  cases first with
  | constant value =>
      cases second with
      | constant =>
          cases same
          rfl
      | clause => cases same
  | clause inner =>
      cases second with
      | constant => cases same
      | clause other =>
          have sameReduced := Sum.inr.inj same
          simp only [normalForm, Clause.normalize, sameReduced]

theorem toPredicate_filter (unfiltered : query.predicate = none) (expr : Expr) :
    (query.filter expr).toPredicate context = Predicate.ofExpr context expr := by
  rw [filter_of_unfiltered unfiltered]
  rfl

/-- Filters whose predicates reduce alike compile alike. -/
theorem compile_filter_eq {one other : Expr} {first second : Predicate}
    (unfiltered : query.predicate = none) (oneCompiled : Predicate.ofExpr context one = .ok first)
    (otherCompiled : Predicate.ofExpr context other = .ok second)
    (same : first.reduced = second.reduced) (scope : Scope) :
    (query.filter one).compile context scope = (query.filter other).compile context scope := by
  have sameLowered : (query.filter one).lower context = (query.filter other).lower context := by
    simp only [lower, toPredicate_filter unfiltered, oneCompiled, otherCompiled]
    change normalForm _ first >>= _ = normalForm _ second >>= _
    rw [normalForm_eq_of_reduced_eq _ same]
    rfl
  simp only [compile, outcome, compileIn, sameLowered]

theorem compileQuery_filter_eq_ok {expr : Expr} {inner : Clause}
    {normalized : Clause.Normalized} {sort : List SortKey} (unfiltered : query.predicate = none)
    (compiled : Predicate.ofExpr context expr = .ok (.clause inner))
    (normalizes : inner.normalize context.options.guardField = some normalized)
    (sorts : query.indexedSort context = .ok sort) :
    (query.filter expr).compileQuery context =
      .ok
          { predicate := some normalized.clause
            sort
            page := query.page
            flags := query.flags } := by
  have given := (toPredicate_filter unfiltered expr).trans compiled
  have normal : normalForm context.options.guardField (.clause inner) = .ok (some normalized) :=
    congrArg Except.ok normalizes
  have lowers := lower_eq_ok.mpr ⟨_, _, sort, given, normal, sorts, rfl⟩
  rw [compileQuery, lowers]
  rfl

/-! ### Groupings of the same operands -/

section Operands

variable {operands : List Expr} {predicates : List Predicate}

theorem compile_grouping_eq (unfiltered : query.predicate = none)
    (compiled : operands.mapM (Predicate.ofExpr context) = .ok predicates)
    (connective : Connective) {first second : Grouping} (firstGroups : first.operands = operands)
    (secondGroups : second.operands = operands) (scope : Scope) :
    (query.filter (first.expr connective)).compile context scope =
      (query.filter (second.expr connective)).compile context scope := by
  subst firstGroups
  rcases Predicate.exists_ofExpr_grouping connective first compiled with
    ⟨one, oneCompiled, oneReduces⟩
  rw [← secondGroups] at compiled
  rcases Predicate.exists_ofExpr_grouping connective second compiled with
    ⟨other, otherCompiled, otherReduces⟩
  exact compile_filter_eq unfiltered oneCompiled otherCompiled (oneReduces.trans otherReduces.symm)
    scope

/-- A conjunction may be spread over filters that are given one after the other. -/
theorem compile_foldl_filter_eq (unfiltered : query.predicate = none)
    (compiled : operands.mapM (Predicate.ofExpr context) = .ok predicates)
    {filters : List Grouping} {whole : Grouping}
    (spread : filters.flatMap Grouping.operands = operands)
    (wholeGroups : whole.operands = operands)
    (scope : Scope) :
    ((filters.map (Grouping.expr .and)).foldl filter query).compile context scope =
      (query.filter (whole.expr .and)).compile context scope := by
  cases filters with
  | nil => exact absurd (wholeGroups.trans spread.symm) whole.operands_ne_nil
  | cons first rest =>
      rw [List.map_cons, List.foldl_cons, foldl_filter unfiltered]
      rw [List.flatMap_cons, ← Grouping.operands_foldl_pair] at spread
      exact compile_grouping_eq unfiltered compiled .and spread wholeGroups scope

/-- The terms of the operands come out in the order of the connective, with guards inserted. -/
theorem exists_compileQuery_grouping {clauses : List Clause} {sort : List SortKey}
    {grouping : Grouping} (unfiltered : query.predicate = none)
    (compiled : grouping.operands.mapM (Predicate.ofExpr context) = .ok (clauses.map .clause))
    (sorts : query.indexedSort context = .ok sort) (connective : Connective) :
    ∃ clause count,
      (query.filter (grouping.expr connective)).compileQuery context =
          .ok { predicate := some clause, sort, page := query.page, flags := query.flags } ∧
        Inserted (.range context.options.guardField .gt (.int 0)) count
          (((connective.inOrder clauses).flatMap Clause.terms).map Term.affirmed)
          (clause.terms.map Term.affirmed) := by
  rcases Predicate.exists_clause_of_grouping connective grouping compiled with
    ⟨inner, innerCompiled, innerTerms⟩
  cases normalizes : inner.normalize context.options.guardField with
  | none =>
      have full : inner.IsFull := Predicate.isFull_ofExpr innerCompiled
      exact absurd (Clause.normalize_eq_none_iff.mp normalizes) full.terms_ne_nil
  | some normalized =>
      rcases Clause.inserted_normalize normalizes with ⟨count, inserted, _⟩
      rw [Clause.affirmedTerms, innerTerms] at inserted
      exact ⟨normalized.clause, count,
        compileQuery_filter_eq_ok unfiltered innerCompiled normalizes sorts, inserted⟩

/-- Operands that stand for predicates may be grouped in any way, and a conjunction of them may be
given in any number of filters: the query compiles alike in every scope. If no operand stands for a
truth value, the terms of the compiled query are those of the operands, from the last to the first
in a conjunction and from the first to the last in a disjunction, with presence guards inserted and
values of boolean terms aside. -/
theorem compile_filter_grouping (unfiltered : query.predicate = none)
    (compiled : operands.mapM (Predicate.ofExpr context) = .ok predicates) :
    (∀ (connective : Connective) (first second : Grouping), first.operands = operands →
        second.operands = operands →
          (∃ predicate, Predicate.ofExpr context (first.expr connective) = .ok predicate) ∧
            ∀ scope,
              (query.filter (first.expr connective)).compile context scope =
                (query.filter (second.expr connective)).compile context scope) ∧
      (∀ (filters : List Grouping) (whole : Grouping),
        filters.flatMap Grouping.operands = operands → whole.operands = operands → ∀ scope,
          ((filters.map (Grouping.expr .and)).foldl filter query).compile context scope =
            (query.filter (whole.expr .and)).compile context scope) ∧
      ∀ (clauses : List Clause) (sort : List SortKey), predicates = clauses.map .clause →
        query.indexedSort context = .ok sort →
          ∀ (connective : Connective) (grouping : Grouping), grouping.operands = operands →
            ∃ clause count,
              (query.filter (grouping.expr connective)).compileQuery context =
                  .ok { predicate := some clause, sort, page := query.page, flags := query.flags } ∧
                Inserted (.range context.options.guardField .gt (.int 0)) count
                  (((connective.inOrder clauses).flatMap Clause.terms).map Term.affirmed)
                  (clause.terms.map Term.affirmed) := by
  refine ⟨?_, ?_, ?_⟩
  · intro connective first second firstGroups secondGroups
    have alike := compile_grouping_eq unfiltered compiled connective firstGroups secondGroups
    subst firstGroups
    rcases Predicate.exists_ofExpr_grouping connective first compiled with
      ⟨predicate, predicateCompiled, _⟩
    exact ⟨⟨predicate, predicateCompiled⟩, alike⟩
  · intro filters whole spread wholeGroups
    exact compile_foldl_filter_eq unfiltered compiled spread wholeGroups
  · rintro clauses sort rfl sorts connective grouping rfl
    exact exists_compileQuery_grouping unfiltered compiled sorts connective

/-- A conjunction with a constant in the middle may be grouped to either side, or given in two
filters; a disjunction of two negations gets a guard beside each. -/
theorem compile_filter_grouping_constant :
    let context : Context := ⟨.empty, .empty, { unknownFields := .infer }, .epoch⟩
    let query : Query := { sort := [⟨"Name", .ascending⟩] }
    let one : Grouping := .operand (.field "A")
    let always : Grouping := .operand (.constant (.bool true))
    let other : Grouping := .operand (.not (.field "B"))
    let leftNegation : Grouping := .operand (.binary .ne (.field "C") (.constant (.int 1)))
    let rightNegation : Grouping := .operand (.binary .ne (.field "D") (.constant (.int 2)))
    let clause : Clause :=
      .or [.and [.not (Term.equality "C" (.int 1)), .presenceGuard "Id"],
        .and [.not (Term.equality "D" (.int 2)), .presenceGuard "Id"]]
    (query.filter (((one.pair always).pair other).expr .and)).compile context {} =
        .ok ⟨"+B:no +A:yes .SORT:Name", .default⟩ ∧
      (∀ scope, (query.filter (((one.pair always).pair other).expr .and)).compile context scope =
        (query.filter ((one.pair (always.pair other)).expr .and)).compile context scope) ∧
      (∀ scope, (([one, always.pair other].map (Grouping.expr .and)).foldl filter query).compile
          context scope =
        (query.filter (((one.pair always).pair other).expr .and)).compile context scope) ∧
      (query.filter ((leftNegation.pair rightNegation).expr .or)).compileQuery context =
          .ok { predicate := some clause, sort := [⟨"Name", .ascending⟩] } ∧
        ∃ count, Inserted (.range "Id" .gt (.int 0)) count
          [.equality "C" (.int 1), .equality "D" (.int 2)] (clause.terms.map Term.affirmed) := by
  intro context query one always other leftNegation rightNegation clause
  have mixed : ((one.pair always).pair other).operands.mapM (Predicate.ofExpr context) =
      .ok [.clause (Term.boolean "A" true), .constant true, .clause (Term.boolean "B" false)] := rfl
  have negations : (leftNegation.pair rightNegation).operands.mapM (Predicate.ofExpr context) =
      .ok ([.not (Term.equality "C" (.int 1)), .not (Term.equality "D" (.int 2))].map .clause) :=
    rfl
  have compiles : (query.filter ((leftNegation.pair rightNegation).expr .or)).compileQuery context =
      .ok { predicate := some clause, sort := [⟨"Name", .ascending⟩] } := rfl
  have grouped := @compile_filter_grouping context query _ _ rfl mixed
  refine ⟨by decide, (grouped.1 .and _ _ rfl rfl).2, grouped.2.1 _ _ rfl rfl, compiles, ?_⟩
  rcases (@compile_filter_grouping context query _ _ rfl negations).2.2 _ _ rfl rfl .or _ rfl with
    ⟨_, count, compilesTo, inserted⟩
  cases compiles.symm.trans compilesTo
  exact ⟨count, inserted⟩

end Operands

end Query

end ContentQuery
