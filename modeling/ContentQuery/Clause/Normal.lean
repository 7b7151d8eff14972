import ContentQuery.Clause.Basic

/-!
# Normal form of clauses

Normalization works in two passes. `Clause.reduce` drops empty groups, replaces a group of one by
its member, splices a group into a parent of the same kind, and resolves negations. The search
engine finds nothing for a group whose members are all negated, so `Clause.guardGroups` then puts
the presence guard beside the members of such groups. Neither pass reorders members.
-/

namespace ContentQuery

namespace Clause

/-- A group of the members: nothing for none, the member itself for one. -/
def collapse (group : List Clause → Clause) : List Clause → Option Clause
  | [] => none
  | [member] => some member
  | members => some (group members)

/-- What a reduced member adds to a conjunction. -/
def asConjuncts : Option Clause → List Clause
  | none => []
  | some (and members) => members
  | some clause => [clause]

/-- What a reduced member adds to a disjunction. -/
def asDisjuncts : Option Clause → List Clause
  | none => []
  | some (or members) => members
  | some clause => [clause]

mutual

/-- The clause with its groups flattened and its negations resolved, if any term is left. -/
def reduce : Clause → Option Clause
  | term leaf => some (term leaf)
  | and members => collapse and (reduceConjuncts members)
  | or members => collapse or (reduceDisjuncts members)
  | not inner => inner.reduce.map negate

/-- The reduced members of a conjunction. -/
def reduceConjuncts : List Clause → List Clause
  | [] => []
  | member :: members => asConjuncts member.reduce ++ reduceConjuncts members

/-- The reduced members of a disjunction. -/
def reduceDisjuncts : List Clause → List Clause
  | [] => []
  | member :: members => asDisjuncts member.reduce ++ reduceDisjuncts members

end

mutual

/-- The clause with a guard in each group of negations: once in a conjunction, beside each
alternative in a disjunction. -/
def guardGroups (guardField : String) : Clause → Clause
  | term leaf => term leaf
  | not inner => not (inner.guardGroups guardField)
  | and members =>
    let guarded := guardMembers guardField members
    and (if guarded.all isNegated then guarded ++ [presenceGuard guardField] else guarded)
  | or members =>
    let guarded := guardMembers guardField members
    or (if guarded.all isNegated then
      guarded.map fun member => and [member, presenceGuard guardField] else guarded)

/-- The members of a group, each with guards in its own groups. -/
def guardMembers (guardField : String) : List Clause → List Clause
  | [] => []
  | member :: members => member.guardGroups guardField :: guardMembers guardField members

end

mutual

/-- Some group at some depth has only negated members. -/
def hasNegativeGroup : Clause → Bool
  | term _ => false
  | not inner => inner.hasNegativeGroup
  | and members | or members => members.all isNegated || anyNegativeGroup members

/-- Some group in some of the clauses has only negated members. -/
def anyNegativeGroup : List Clause → Bool
  | [] => false
  | member :: members => member.hasNegativeGroup || anyNegativeGroup members

end

/-- A clause in normal form. -/
structure Normalized where
  clause : Clause
  /-- A presence guard was added. -/
  guarded : Bool
deriving Repr

/-- The normal form of a clause, if any term is left. -/
def normalize (guardField : String) (clause : Clause) : Option Normalized :=
  clause.reduce.map fun reduced =>
    let guarded := reduced.guardGroups guardField
    if guarded.isNegated then ⟨and [guarded, presenceGuard guardField], true⟩
    else ⟨guarded, reduced.hasNegativeGroup⟩

end Clause

end ContentQuery
