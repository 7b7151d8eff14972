import ContentQuery.Query.Compile
import ContentQuery.Proofs.Predicate.Literals
import ContentQuery.Proofs.Scope.Literals

/-!
# Changes of literals in queries

Two queries whose predicates are the same up to a change of literals are compiled to queries that
are the same up to this change, or both are refused for the same reason.
-/

namespace ContentQuery

namespace Query

variable {change : Literal → Literal}

theorem normalForm_mapLiterals (keepsZero : change (.int 0) = .int 0) (guardField : String)
    (predicate : Predicate) :
    normalForm guardField (predicate.mapLiterals change) =
      Option.map (Clause.Normalized.mapLiterals change) <$> normalForm guardField predicate := by
  rcases predicate with (_ | _) | clause
  · rfl
  · rfl
  · exact congrArg Except.ok (clause.normalize_mapLiterals keepsZero)

theorem compileQuery_mapLiterals (keepsZero : change (.int 0) = .int 0) {context other : Context}
    {query changed : Query} (sameGuard : other.options.guardField = context.options.guardField)
    (samePredicate :
      changed.toPredicate other = Predicate.mapLiterals change <$> query.toPredicate context)
    (sameSort : changed.indexedSort other = query.indexedSort context)
    (samePage : changed.page = query.page) (sameFlags : changed.flags = query.flags) :
    changed.compileQuery other =
      CompiledQuery.mapLiterals change <$> query.compileQuery context := by
  rw [compileQuery, compileQuery, lower, lower, samePredicate, sameGuard, sameSort, samePage,
    sameFlags]
  cases query.toPredicate context with
  | error error => rfl
  | ok predicate =>
      change (normalForm _ (predicate.mapLiterals _) >>= _) >>= _ =
        CompiledQuery.mapLiterals _ <$> ((normalForm _ predicate >>= _) >>= _)
      rw [normalForm_mapLiterals keepsZero]
      cases normalForm context.options.guardField predicate with
      | error error => rfl
      | ok normalized =>
          cases query.indexedSort context with
          | error error => rfl
          | ok sort => cases normalized <;> rfl

end Query

end ContentQuery
