import ContentQuery.CompileError
import ContentQuery.Field.Catalog
import ContentQuery.Options.Basic

/-!
# Failures

The errors that callers of the compiler see: a kind to act on, the part of the program that found
the error, and a message. The taxonomy is stable, whatever errors the parts have.
-/

namespace ContentQuery

/-- Kinds of errors in a query. None of them goes away by trying again. -/
inductive QueryFailure where
  /-- No rule covers the shape of the predicate. -/
  | unsupported
  /-- A field or a content type could not be resolved. -/
  | notFound
  /-- A constant, a scope or a literal is malformed. -/
  | invalid
deriving DecidableEq, Repr

/-- Kinds of failures. -/
inductive FailureKind where
  | query (kind : QueryFailure)
  /-- Options or a field catalog could not be read. -/
  | config
deriving DecidableEq, Repr

/-- Parts of the program that find errors. -/
inductive FailureOrigin where
  | compiler
  | config
  | schema
  | scope
deriving DecidableEq, Repr

/-- An error as callers see it. -/
structure Failure where
  kind : FailureKind
  origin : FailureOrigin
  message : String
deriving DecidableEq, Repr

/-- The word for a kind of query error. -/
def QueryFailure.name : QueryFailure → String
  | unsupported => "Unsupported"
  | notFound => "NotFound"
  | invalid => "Invalid"

/-- The word for an origin. -/
def FailureOrigin.name : FailureOrigin → String
  | compiler => "Compiler"
  | config => "Config"
  | schema => "Schema"
  | scope => "Scope"

/-- The kind of query error that a class of compile errors is. -/
def QueryFailure.ofClass : ErrorClass → QueryFailure
  | .unsupported => unsupported
  | .notFound => notFound
  | .invalidInput => invalid

/-- The part of the program that finds a compile error. -/
def FailureOrigin.ofCompileError : CompileError → FailureOrigin
  | .invalidScope _ => scope
  | .unknownField _ | .unknownContentType _ => schema
  | _ => compiler

namespace Failure

/-- A compile error as callers see it. -/
def ofCompileError (error : CompileError) : Failure :=
  { kind := .query (.ofClass error.errorClass)
    origin := .ofCompileError error
    message := error.message }

/-- An options error as callers see it. -/
def ofOptionsError (error : OptionsError) : Failure :=
  ⟨.config, .config, error.message⟩

/-- A catalog error as callers see it. -/
def ofCatalogError (error : CatalogError) : Failure :=
  ⟨.config, .schema, error.message⟩

/-- The message with its origin in front. -/
def display (failure : Failure) : String :=
  failure.origin.name ++ ": " ++ failure.message

end Failure

end ContentQuery
