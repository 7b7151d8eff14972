import ContentQuery.Term.Basic

/-!
# Clauses

A clause combines terms by conjunction, disjunction and negation. Conjunctions and disjunctions hold
any number of members, and the order of members is kept because it shows in query text.
-/

namespace ContentQuery

/-- A boolean combination of terms. -/
inductive Clause where
  | term (term : Term)
  | and (members : List Clause)
  | or (members : List Clause)
  | not (inner : Clause)
deriving Repr

namespace Clause

instance : Coe Term Clause := ⟨term⟩

/-- The clause is a negation. -/
def isNegated : Clause → Bool
  | not _ => true
  | _ => false

/-- The clause is a conjunction or a disjunction. -/
def isComposite : Clause → Bool
  | and _ | or _ => true
  | _ => false

mutual

/-- The terms of a clause from left to right. -/
def terms : Clause → List Term
  | term leaf => [leaf]
  | and members | or members => termsOfAll members
  | not inner => inner.terms

/-- The terms of several clauses from left to right. -/
def termsOfAll : List Clause → List Term
  | [] => []
  | member :: members => member.terms ++ termsOfAll members

end

/-- The number of terms of a clause. -/
def termCount (clause : Clause) : Nat :=
  clause.terms.length

/-- The negation of a clause. A double negation and a negated boolean term are resolved on
the spot. -/
def negate : Clause → Clause
  | term (.boolean field value) => term (.boolean field !value)
  | not inner => inner
  | clause => not clause

mutual

/-- Equality of clauses up to the equality of literals. -/
def beq : Clause → Clause → Bool
  | term left, term right => left == right
  | and left, and right | or left, or right => beqAll left right
  | not left, not right => left.beq right
  | _, _ => false

/-- Equality of lists of clauses, member by member. -/
def beqAll : List Clause → List Clause → Bool
  | [], [] => true
  | left :: lefts, right :: rights => left.beq right && beqAll lefts rights
  | _, _ => false

end

instance : BEq Clause := ⟨beq⟩

/-- The term that every content item satisfies: the guard field, which holds an identity, is
positive. -/
def presenceGuard (guardField : String) : Clause :=
  term (.range guardField .gt (.int 0))

end Clause

end ContentQuery
