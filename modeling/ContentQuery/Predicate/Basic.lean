import ContentQuery.Clause.Basic

/-!
# Predicates

A predicate is a clause or a truth value that holds of every content item alike. Truth values are
kept apart from clauses, because query text has no word for them; connectives absorb them.
-/

namespace ContentQuery

/-- A clause or a constant truth value. -/
inductive Predicate where
  | constant (holds : Bool)
  | clause (clause : Clause)
deriving Repr

namespace Predicate

instance : Coe Clause Predicate := ⟨clause⟩

/-- Conjunction. The right operand stands first, so the operands of a chain that is grouped to the
left come out in reverse once its groups are flattened. -/
def and : Predicate → Predicate → Predicate
  | constant false, _ | _, constant false => constant false
  | constant true, other | other, constant true => other
  | clause left, clause right => clause (.and [right, left])

/-- Disjunction, with the operands in order. -/
def or : Predicate → Predicate → Predicate
  | constant true, _ | _, constant true => constant true
  | constant false, other | other, constant false => other
  | clause left, clause right => clause (.or [left, right])

/-- Negation. -/
def not : Predicate → Predicate
  | constant holds => constant !holds
  | clause inner => clause inner.negate

/-- The choice between two predicates by a third. The alternative for a failed test stands first. -/
def choose (test ifTrue ifFalse : Predicate) : Predicate :=
  (test.not.and ifFalse).or (test.and ifTrue)

end Predicate

end ContentQuery
