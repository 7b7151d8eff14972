import ContentQuery.Literal.Text
import ContentQuery.Term.Basic
import ContentQuery.Text.Case
import ContentQuery.Text.Fragment
import ContentQuery.Text.Quoted

/-!
# Text of a term

The text of a term carries no sign; signs belong to the group that the term is a member of.
-/

namespace ContentQuery

namespace Term

/-- The text of a wildcard pattern. -/
def pattern (shape : WildcardShape) (body : String) : String :=
  match shape with
  | .startsWith => body ++ "*"
  | .endsWith => "*" ++ body
  | .contains => "*" ++ body ++ "*"

/-- The text of a term. -/
def text : Term → String
  | equality field value => field ++ ":" ++ value.render
  | range field op bound => field ++ ":" ++ op.symbol ++ bound.render
  | wildcard field text shape => field ++ ":" ++ pattern shape (Text.wildcardBody text)
  | typeFilter typeName transitive =>
    (if transitive then "TypeIs" else "Type") ++ ":" ++ Text.quote (Text.lower typeName)
  | reference field target => field ++ ":" ++ target.toNat.repr
  | boolean field value => field ++ ":" ++ Literal.boolText value
  | scope kind path => kind.keyword ++ ":" ++ Text.quote (Text.lower path)
  | raw text => Text.trim text

/-- The literals of a term can be printed. -/
def isPrintable : Term → Bool
  | equality _ value => value.isPrintable
  | range _ _ bound => bound.isPrintable
  | _ => true

/-- A raw fragment with several clauses or a sign of its own. -/
def isCompositeFragment : Term → Bool
  | raw text => Text.isComposite text
  | _ => false

end Term

end ContentQuery
