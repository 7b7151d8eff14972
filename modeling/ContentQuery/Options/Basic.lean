import ContentQuery.Text.Quoted

/-!
# Compiler options

Options are plain data. They are checked only when they are read from a document, so that a program
may build any.
-/

namespace ContentQuery

/-- The field of the presence guard when no other is configured. -/
def defaultGuardField : String := "Id"

/-- What happens to a field that the catalog does not know. -/
inductive UnknownFieldPolicy where
  /-- The query is refused. -/
  | reject
  /-- The name is used as it is, and the type is read off the literal. -/
  | infer
deriving DecidableEq, Repr

/-- Settings of the compiler. -/
structure Options where
  /-- The numeric field that every content item has. -/
  guardField : String := defaultGuardField
  unknownFields : UnknownFieldPolicy := .reject
  /-- Text in equality and range terms is written in lower case. -/
  lowercaseTerms : Bool := true
  /-- Compiled queries are logged at a level that is shown by default. -/
  traceQueries : Bool := false
deriving DecidableEq, Repr

/-- Why options cannot be used. -/
inductive OptionsError where
  /-- The document cannot be read as options. -/
  | malformed
  | emptyGuardField
deriving DecidableEq, Repr

/-- The wording of an options error. -/
def OptionsError.message : OptionsError → String
  | malformed => "invalid compiler config: malformed document"
  | emptyGuardField => "invalid compiler config: guard field must not be empty"

namespace Options

/-- Options need a guard field that is not blank. -/
def validate (options : Options) : Except OptionsError Unit :=
  if Text.isBlankText options.guardField then .error .emptyGuardField else .ok ()

end Options

end ContentQuery
