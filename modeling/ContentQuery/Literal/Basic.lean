import ContentQuery.Number.Binary
import ContentQuery.Time.Timestamp

/-!
# Literals

Every value in a compiled query is known when the query is compiled. This file gives the type of
these values, the conversions into it, and the two ways to compare them: `==`, which tells an
integer from a float of the same size, and `Literal.order`, which does not.
-/

namespace ContentQuery

/-- A content node, named by its identity and its place in the tree. -/
structure NodeRef where
  id : UInt64
  path : String
deriving DecidableEq, Repr

/-- A value known at compile time. -/
inductive Literal where
  | null
  | bool (value : Bool)
  | int (value : Int64)
  | float (value : Float)
  | text (value : String)
  | dateTime (value : Timestamp)
  | node (value : NodeRef)
deriving Repr

namespace Literal

/-- The word that messages use for the kind of a literal. -/
def kind : Literal → String
  | null => "null"
  | bool _ => "bool"
  | int _ => "int"
  | float _ => "float"
  | text _ => "text"
  | dateTime _ => "datetime"
  | node _ => "node"

/-- Equality of literals of one kind: of numbers for floats, so that a NaN differs from itself, and
of instants for timestamps. Literals of different kinds differ. -/
def beq : Literal → Literal → Bool
  | null, null => true
  | bool left, bool right => left == right
  | int left, int right => left == right
  | float left, float right => left == right
  | text left, text right => left == right
  | dateTime left, dateTime right => left.instant == right.instant
  | node left, node right => left == right
  | _, _ => false

instance : BEq Literal := ⟨beq⟩

/-- The order of two floats as numbers; a NaN has none. -/
def floatOrder (left right : Float) : Option Ordering :=
  if left < right then some .lt
  else if left == right then some .eq
  else if right < left then some .gt
  else none

/-- The order of two literals of one family. Integers and floats are one family and compare as
floats when they meet; texts go by code points. -/
def order : Literal → Literal → Option Ordering
  | int left, int right => some (compare left.toInt right.toInt)
  | float left, float right => floatOrder left right
  | int left, float right => floatOrder (Float.ofInt left.toInt) right
  | float left, int right => floatOrder left (Float.ofInt right.toInt)
  | text left, text right => some (compare left right)
  | dateTime left, dateTime right => some (left.order right)
  | bool left, bool right => some (compare left right)
  | _, _ => none

/-- The null literal. -/
def isNull : Literal → Bool
  | null => true
  | _ => false

end Literal

/-- Types whose values can stand where a literal is wanted. -/
class ToLiteral (Source : Type) where
  toLiteral : Source → Literal

export ToLiteral (toLiteral)

instance : ToLiteral Literal := ⟨id⟩
instance : ToLiteral Bool := ⟨.bool⟩
instance : ToLiteral Int8 := ⟨fun value => .int value.toInt64⟩
instance : ToLiteral Int16 := ⟨fun value => .int value.toInt64⟩
instance : ToLiteral Int32 := ⟨fun value => .int value.toInt64⟩
instance : ToLiteral Int64 := ⟨.int⟩
instance : ToLiteral UInt8 := ⟨fun value => .int (Int64.ofNat value.toNat)⟩
instance : ToLiteral UInt16 := ⟨fun value => .int (Int64.ofNat value.toNat)⟩
instance : ToLiteral UInt32 := ⟨fun value => .int (Int64.ofNat value.toNat)⟩
instance : ToLiteral Float32 := ⟨fun value => .float value.toFloat⟩
instance : ToLiteral Float := ⟨.float⟩
instance : ToLiteral String := ⟨.text⟩
instance : ToLiteral Timestamp := ⟨.dateTime⟩
instance : ToLiteral NodeRef := ⟨.node⟩

/-- An absent value is null. -/
instance {Source : Type} [ToLiteral Source] : ToLiteral (Option Source) where
  toLiteral
    | some value => toLiteral value
    | none => .null

end ContentQuery
