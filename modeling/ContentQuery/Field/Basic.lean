import ContentQuery.Literal.Basic

/-!
# Fields

What the compiler has to know about a field of the search index: the name the index has for it, the
type of its values, and whether a content item may hold several of them.
-/

namespace ContentQuery

/-- Types of field values that have compilation rules of their own. -/
inductive FieldType where
  | bool
  | int
  | float
  | text
  | dateTime
  | reference
deriving DecidableEq, Repr

namespace FieldType

/-- Values of an orderable type can be compared with `<`, `<=`, `>` and `>=`. -/
def isOrderable : FieldType → Bool
  | int | float | text | dateTime => true
  | bool | reference => false

/-- The type of a field of which only a literal compared with it is known. -/
def infer : Literal → FieldType
  | .bool _ => bool
  | .int _ => int
  | .float _ => float
  | .null | .text _ => text
  | .dateTime _ => dateTime
  | .node _ => reference

end FieldType

/-- A field as the search index knows it. -/
structure FieldInfo where
  /-- The name that stands in query text. -/
  indexedName : String
  type : FieldType
  multivalued : Bool := false
deriving DecidableEq, Repr

end ContentQuery
