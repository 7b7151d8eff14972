import ContentQuery.Scope.Document
import ContentQuery.Failure.Document
import ContentQuery.Query.Builder
import ContentQuery.Session
import ContentQuery.Proofs.Query.Meaning
import ContentQuery.Proofs.Term.Text
import ContentQuery.Proofs.Clause.Text
import ContentQuery.Proofs.Clause.Outline
import ContentQuery.Proofs.Query.Text
import ContentQuery.Proofs.Clause.Signs
import ContentQuery.Proofs.Clause.Ending
import ContentQuery.Proofs.Scope.Embedding
import ContentQuery.Proofs.Session.Sinks
import ContentQuery.Proofs.Session.Settings
import ContentQuery.Proofs.Query.Failure
import ContentQuery.Proofs.Query.Terms
import ContentQuery.Proofs.Query.Grouping
import ContentQuery.Proofs.Clause.Terms
import ContentQuery.Proofs.Telemetry.Recount
import ContentQuery.Proofs.Predicate.Comparison
import ContentQuery.Proofs.Query.Equivalence
import ContentQuery.Proofs.Text.Quoted
import ContentQuery.Proofs.Term.Comparison
import ContentQuery.Proofs.Text.Literal
import ContentQuery.Proofs.Term.Pattern
import ContentQuery.Proofs.Query.Folder
import ContentQuery.Proofs.Time.Text
import ContentQuery.Proofs.Expr.Integer
import ContentQuery.Proofs.Expr.Shift
import ContentQuery.Proofs.Query.Offset
import ContentQuery.Proofs.Literal.Order
import ContentQuery.Proofs.Expr.Comparison
import ContentQuery.Proofs.Predicate.LetterCase
import ContentQuery.Proofs.Query.LetterCase
import ContentQuery.Proofs.Predicate.Membership
import ContentQuery.Proofs.Query.Builder
import ContentQuery.Proofs.Field.Catalog
import ContentQuery.Proofs.Scope.Empty
import ContentQuery.Proofs.Expr.Constant
import ContentQuery.Proofs.Text.Closed
