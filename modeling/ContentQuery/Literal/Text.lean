import ContentQuery.Literal.Basic
import ContentQuery.Number.Shortest
import ContentQuery.Text.Quoted

/-!
# Texts of a literal

A literal has two texts: the one that stands after `field:` in query text, which every literal has,
and the one that text-matching operators look for, which only null, text and finite numbers have.
-/

namespace ContentQuery

namespace Literal

/-- The text of an integer. -/
def intText (value : Int64) : String :=
  value.toInt.repr

/-- The words for the two truth values. -/
def boolText (value : Bool) : String :=
  if value then "yes" else "no"

/-- The text that text-matching operators look for. -/
def matchText : Literal → Option String
  | null => some ""
  | text value => some value
  | int value => some (intText value)
  | float value => if isFiniteFloat value then some (floatText value) else none
  | _ => none

/-- The literal as it stands after `field:`. -/
def render : Literal → String
  | null => "''"
  | bool value => boolText value
  | int value => intText value
  | float value => floatText value
  | text value => Text.quote value
  | dateTime value => "'" ++ value.text ++ "'"
  | node value => value.id.toNat.repr

/-- A timestamp is printed by its date in UTC and so has to have one. -/
def isPrintable : Literal → Bool
  | dateTime value => value.toUtc?.isSome
  | _ => true

end Literal

end ContentQuery
