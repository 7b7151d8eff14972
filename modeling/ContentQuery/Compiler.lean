import ContentQuery.Failure.Basic
import ContentQuery.Field.Document
import ContentQuery.Options.Document
import ContentQuery.Telemetry.Recorder

/-!
# Compilers

A compiler is a value that is kept for many compilations: the catalog it has published, the content
types it knows, its options and its clock. Publishing a catalog gives a new compiler and leaves
compilations with the old one as they were.
-/

namespace ContentQuery

/-- The version of the compiler. -/
def version : String := "0.4.0"

/-- Why a compiler cannot be set up. -/
inductive SetupError where
  | options (error : OptionsError)
  | catalog (error : CatalogError)
deriving DecidableEq, Repr

namespace SetupError

/-- A document could not be read at all. -/
def isMalformed : SetupError → Bool
  | options error => error = .malformed
  | catalog error => error = .malformed

/-- A setup error as callers see it. -/
def toFailure : SetupError → Failure
  | options error => .ofOptionsError error
  | catalog error => .ofCatalogError error

end SetupError

/-- What is kept from one compilation to the next. -/
structure Compiler where
  catalog : FieldCatalog := .standard
  registry : TypeRegistry := .empty
  options : Options := {}
  clock : Clock := .system

namespace Compiler

/-- A compiler with options and additional fields from TOML documents. -/
def ofDocuments (options fields : String) : Except SetupError Compiler := do
  let options ← (Options.parse options).mapError .options
  let overlay ← (FieldCatalog.parse fields).mapError .catalog
  return { catalog := FieldCatalog.standard.merge overlay, options }

/-- Registers the content type of a handler. -/
def registerType (compiler : Compiler) (handler : Handler) (contentType : String) : Compiler :=
  { compiler with registry := compiler.registry.register handler contentType }

/-- Makes the compiler go by another clock. -/
def withClock (compiler : Compiler) (clock : Clock) : Compiler :=
  { compiler with clock }

/-- Publishes a catalog. The previous one is `compiler.catalog`. -/
def publish (compiler : Compiler) (catalog : FieldCatalog) : Compiler :=
  { compiler with catalog }

/-- Publishes a change of the catalog. -/
def update (compiler : Compiler) (change : FieldCatalog → FieldCatalog) : Compiler :=
  compiler.publish (change compiler.catalog)

/-- The context of a compilation at the present time. -/
def context (compiler : Compiler) (present : Timestamp) : Context :=
  { catalog := compiler.catalog
    registry := compiler.registry
    options := compiler.options
    time := compiler.clock.time present }

/-- Compiles a query in a scope, records it, and gives errors as callers see them. -/
def compile (compiler : Compiler) (present : Timestamp) (scope : Scope) (query : Query)
    (recorder : Recorder) : Except (Stop Failure) CompiledText × Recorder :=
  let (outcome, recorded) := query.compileRecorded (compiler.context present) scope recorder
  (outcome.mapError (.map .ofCompileError), recorded)

end Compiler

end ContentQuery
