/-!
# Compile errors

All failures of a compilation, their wording, and their coarse classes. Every failure is found while
the query is compiled, and no query text comes with one. A compilation that meets a date without a
representation in UTC stops as well, but not with an error: it panics.
-/

namespace ContentQuery

/-- Coarse classes of compile errors. -/
inductive ErrorClass where
  | unsupported
  | notFound
  | invalidInput
deriving DecidableEq, Repr

/-- The word for a class. -/
def ErrorClass.name : ErrorClass → String
  | unsupported => "unsupported"
  | notFound => "not_found"
  | invalidInput => "invalid_input"

/-- Why a query has no compiled form. -/
inductive CompileError where
  /-- An operand of `operation` depends on the content item. -/
  | nonConstantArgument (operation : String)
  /-- No rule covers this kind of expression. -/
  | unsupportedExpression (node : String)
  /-- The catalog does not know the field. -/
  | unknownField (field : String)
  /-- No content type is registered for the handler. -/
  | unknownContentType (handler : String)
  | invalidScope (reason : String)
  | invalidConstant (reason : String)
  /-- The predicate is false of every content item. -/
  | constantPredicate
deriving DecidableEq, Repr

namespace CompileError

/-- The class of an error. -/
def errorClass : CompileError → ErrorClass
  | nonConstantArgument _ | unsupportedExpression _ | constantPredicate => .unsupported
  | unknownField _ | unknownContentType _ => .notFound
  | invalidScope _ | invalidConstant _ => .invalidInput

/-- The word that counters and logs use for an error. -/
def label : CompileError → String
  | nonConstantArgument _ => "non_constant_argument"
  | unsupportedExpression _ => "unsupported_expression_node"
  | unknownField _ => "unknown_field"
  | unknownContentType _ => "unknown_content_type"
  | invalidScope _ => "invalid_scope"
  | invalidConstant _ => "invalid_constant"
  | constantPredicate => "constant_predicate"

/-- The wording of an error. -/
def message : CompileError → String
  | nonConstantArgument operation =>
    "argument of '" ++ operation ++ "' must be a compile-time constant"
  | unsupportedExpression node => "unsupported expression node: " ++ node
  | unknownField field => "unknown field '" ++ field ++ "'"
  | unknownContentType handler =>
    "content handler '" ++ handler ++ "' has no registered content type"
  | invalidScope reason => "invalid scope: " ++ reason
  | invalidConstant reason => "invalid constant expression: " ++ reason
  | constantPredicate => "predicate folds to constant false and can never match"

/-- The wording of an error with its class in front. -/
def classifiedMessage (error : CompileError) : String :=
  error.errorClass.name ++ ": " ++ error.message

end CompileError

/-- Why a computation has no result. -/
inductive Stop (Error : Type) where
  | refused (error : Error)
  | panicked
deriving DecidableEq, Repr

/-- Stops with an error. -/
abbrev refuse {Error Result : Type} (error : Error) : Except (Stop Error) Result :=
  .error (.refused error)

/-- The stop with another error in place of its own. -/
def Stop.map {Error Other : Type} (convert : Error → Other) : Stop Error → Stop Other
  | refused error => refused (convert error)
  | panicked => panicked

end ContentQuery
