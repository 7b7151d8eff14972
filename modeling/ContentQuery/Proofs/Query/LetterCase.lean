import ContentQuery.Proofs.Predicate.LetterCase
import ContentQuery.Proofs.Query.Literals

/-!
# Letter case of queries

The option for lower case changes the letter case of the texts that a compiled query compares fields
with, and nothing else of the query or of the reason for which it is refused.
-/

namespace ContentQuery

namespace Query

/-- With the option for lower case a query is compiled to what it is compiled to without, with the
texts in equality and range terms in lower case, or it is refused with the same error. -/
theorem compileQuery_withLowercaseTerms (context : Context) (query : Query) :
    query.compileQuery (context.withLowercaseTerms true) =
      CompiledQuery.mapLiterals Literal.inLowerCase <$>
        query.compileQuery (context.withLowercaseTerms false) := by
  have samePredicate :
      query.toPredicate (context.withLowercaseTerms true) =
        Predicate.mapLiterals Literal.inLowerCase <$>
          query.toPredicate (context.withLowercaseTerms false) := by
    simp only [toPredicate]
    split
    · exact Predicate.ofExpr_withLowercaseTerms context _
    · rfl
  refine compileQuery_mapLiterals ?_ ?_ samePredicate ?_ ?_ ?_ <;> rfl

-- the text of the pattern keeps its letter case
example :
    let context : Context := ⟨.empty, .empty, { unknownFields := .infer }, .epoch⟩
    let query : Query :=
      { predicate := some (.binary .and
          (.binary .ne (.field "Name") (.constant (.text "Red Car")))
          (.call .startsWith (.field "Name") [.constant (.text "Re")])) }
    (query.compile (context.withLowercaseTerms false) {} =
        .ok ⟨"+Name:Re* -Name:'Red Car'", .default⟩) ∧
      query.compile (context.withLowercaseTerms true) {} =
        .ok ⟨"+Name:Re* -Name:'red car'", .default⟩ := by
  decide

end Query

end ContentQuery
