import ContentQuery.Context
import ContentQuery.Proofs.Expr.Failure

/-!
# Constant expressions

An expression that is taken for constant can be evaluated without a candidate. It has no part that
reads one, so evaluation comes to a value, to an invalid constant, or to a call that it refuses: one
with a wrong number of arguments, or one of a method that stands for a property of the candidate.

What evaluation does read is the clock. A clock may be fixed to a time that has no date in UTC, near
either end of the range of dates, and then an expression that names the time panics.
-/

namespace ContentQuery

namespace Expr

end Expr

end ContentQuery
