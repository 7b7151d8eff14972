import ContentQuery.Predicate.Comparison
import ContentQuery.Proofs.Clause.Literals
import ContentQuery.Proofs.Outcome

/-!
# Changes of literals in the outcome of a rule

Where the rules for parts of an expression give the same up to a change of literals, so does the
rule for the whole.
-/

namespace ContentQuery

variable {change : Literal → Literal}

namespace Context

theorem mapLiterals_signed (negated : Bool) (leaf : Term) :
    (signed negated leaf).mapLiterals change = signed negated (leaf.mapLiteral change) := by
  cases negated <;> rfl

end Context

namespace Predicate

theorem map_clause_mapLiterals {outcome other : Except (Stop CompileError) Clause}
    (same : other = Clause.mapLiterals change <$> outcome) :
    clause <$> other = mapLiterals change <$> (clause <$> outcome) := by
  rw [same]
  cases outcome <;> rfl

theorem join_mapLiterals {join : Predicate → Predicate → Predicate}
    {one one' other other' : Except (Stop CompileError) Predicate}
    (commutes : ∀ left right : Predicate,
      join (left.mapLiterals change) (right.mapLiterals change) =
        (join left right).mapLiterals change)
    (sameOne : one' = mapLiterals change <$> one)
    (sameOther : ∀ predicate, one = .ok predicate → other' = mapLiterals change <$> other) :
    (do return join (← one') (← other')) =
      mapLiterals change <$>
        (do return join (← one) (← other) : Except (Stop CompileError) Predicate) := by
  rw [sameOne]
  apply map_bind_eq_map
  intro left lowers
  rw [sameOther left lowers]
  apply map_bind_eq_map
  intro right _
  exact congrArg Except.ok (commutes left right)

end Predicate

end ContentQuery
