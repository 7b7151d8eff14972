import ContentQuery.Clause.Basic
import ContentQuery.Term.Text

/-!
# Text of a clause

In query text, members of a group are separated by a space. A conjunction gives each member a plus
sign, a disjunction gives none, and a negated member has a minus sign in either. A group inside
another clause stands in parentheses.
-/

namespace ContentQuery

namespace Clause

/-- Members of a group side by side. -/
def sideBySide (members : List String) : String :=
  " ".intercalate members

/-- The sign of a member of a conjunction; a negated member brings its own. -/
def conjunctSign (member : Clause) : String :=
  if member.isNegated then "" else "+"

mutual

/-- The text of a clause inside another clause. -/
def memberText : Clause → String
  | term leaf => if leaf.isCompositeFragment then "(" ++ leaf.text ++ ")" else leaf.text
  | not inner => "-" ++ inner.memberText
  | and members => "(" ++ sideBySide (conjunctTexts members) ++ ")"
  | or members => "(" ++ sideBySide (disjunctTexts members) ++ ")"

/-- The texts of the members of a conjunction. -/
def conjunctTexts : List Clause → List String
  | [] => []
  | member :: members => (member.conjunctSign ++ member.memberText) :: conjunctTexts members

/-- The texts of the members of a disjunction. -/
def disjunctTexts : List Clause → List String
  | [] => []
  | member :: members => member.memberText :: disjunctTexts members

end

/-- The text of a clause that stands alone. -/
def text : Clause → String
  | term leaf => leaf.text
  | not inner => "-" ++ inner.memberText
  | and members => sideBySide (conjunctTexts members)
  | or members => sideBySide (disjunctTexts members)

/-- The literals of a clause can be printed. -/
def isPrintable (clause : Clause) : Bool :=
  clause.terms.all Term.isPrintable

end Clause

end ContentQuery
