import ContentQuery.Literal.Basic

/-!
# Terms

A term is one condition of a query that the search engine evaluates on its own: a comparison of a
field with a literal, a type filter, a place in the content tree, or text supplied by the caller.
-/

namespace ContentQuery

/-- Ordering comparisons. -/
inductive RangeOp where
  | lt
  | le
  | gt
  | ge
deriving DecidableEq, Repr

namespace RangeOp

/-- The symbol that stands in front of a bound. -/
def symbol : RangeOp → String
  | lt => "<"
  | le => "<="
  | gt => ">"
  | ge => ">="

/-- The comparison seen from the other side: `4 > Id` is `Id < 4`. -/
def converse : RangeOp → RangeOp
  | lt => gt
  | le => ge
  | gt => lt
  | ge => le

@[simp]
theorem converse_converse (op : RangeOp) : op.converse.converse = op := by
  cases op <;> rfl

end RangeOp

/-- Where the fixed text stands in a wildcard pattern. -/
inductive WildcardShape where
  /-- The pattern `text*`. -/
  | startsWith
  /-- The pattern `*text`. -/
  | endsWith
  /-- The pattern `*text*`. -/
  | contains
deriving DecidableEq, Repr

/-- Restrictions to a place in the content tree. -/
inductive ScopeKind where
  | inFolder
  | inTree
deriving DecidableEq, Repr

/-- The keyword of a restriction. -/
def ScopeKind.keyword : ScopeKind → String
  | inFolder => "InFolder"
  | inTree => "InTree"

/-- A single condition on a content item. -/
inductive Term where
  | equality (field : String) (value : Literal)
  | range (field : String) (op : RangeOp) (bound : Literal)
  | wildcard (field : String) (text : String) (shape : WildcardShape)
  /-- A transitive filter also accepts the types derived from the named one. -/
  | typeFilter (typeName : String) (transitive : Bool)
  | reference (field : String) (target : UInt64)
  | boolean (field : String) (value : Bool)
  | scope (kind : ScopeKind) (path : String)
  /-- Query text supplied by a caller. -/
  | raw (text : String)
deriving BEq, Repr

end ContentQuery
