import ContentQuery.CompileError
import ContentQuery.ContentType
import ContentQuery.Field.Catalog
import ContentQuery.Options.Basic
import ContentQuery.Time.Timestamp

/-!
# Compile contexts

A context holds all that a compilation reads besides the query and its scope. Its time is what the
clock shows when the compilation starts, in the offset that the clock has; the evaluation of
constant expressions converts it to UTC where it needs it.
-/

namespace ContentQuery

/-- Where the time of compilation comes from. -/
inductive Clock where
  /-- The present time, which is given in UTC. -/
  | system
  /-- The same time for every compilation. -/
  | fixed (time : Timestamp)
deriving DecidableEq, Repr

/-- The time that a clock shows. -/
def Clock.time (present : Timestamp) : Clock → Timestamp
  | system => present
  | fixed time => time

/-- What a compilation reads besides the query and its scope. -/
structure Context where
  catalog : FieldCatalog
  registry : TypeRegistry
  options : Options
  /-- What the clock shows. -/
  time : Timestamp

namespace Context

/-- The description of a field. A field that the catalog does not know is an error or has the
inferred type, as the options say. -/
def resolve (context : Context) (name : String) (inferred : FieldType) :
    Except (Stop CompileError) FieldInfo :=
  match context.catalog.resolve? name, context.options.unknownFields with
  | some info, _ => .ok info
  | none, .reject => refuse (.unknownField name)
  | none, .infer => .ok { indexedName := name, type := inferred }

end Context

end ContentQuery
