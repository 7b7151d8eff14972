import ContentQuery.Failure.Basic
import ContentQuery.Json.Decode
import ContentQuery.Json.Reader

/-!
# Failures in JSON

A failure is written as a record of three fields, all of which are needed. Other fields are passed
over.
-/

namespace ContentQuery

/-- The kind of query error with a given word. -/
def QueryFailure.ofName? : String → Option QueryFailure
  | "Unsupported" => some unsupported
  | "NotFound" => some notFound
  | "Invalid" => some invalid
  | _ => none

/-- The origin with a given word. -/
def FailureOrigin.ofName? : String → Option FailureOrigin
  | "Compiler" => some compiler
  | "Config" => some config
  | "Schema" => some schema
  | "Scope" => some scope
  | _ => none

/-- The kind of failure that a JSON value describes; the kind of a query error stands
under `Query`. -/
def FailureKind.ofJson? (value : Json.Value) : Option FailureKind :=
  match value with
  | .object [(some "Query", kind)] => query <$> (kind.caseName? >>= QueryFailure.ofName?)
  | _ => if value.caseName? = some "Config" then some config else none

namespace Failure

/-- The names of the fields of a failure in documents. -/
def fieldNames : List String := ["kind", "origin", "message"]

/-- The failure that a JSON value describes. -/
def ofJson? (value : Json.Value) : Option Failure := do
  let [some kind, some origin, some message] ← value.record? false fieldNames | none
  return {
    kind := ← FailureKind.ofJson? kind
    origin := ← origin.caseName? >>= FailureOrigin.ofName?
    message := ← message.text? }

/-- The failure that a JSON document describes. -/
def parse? (document : String) : Option Failure :=
  Json.parse? document >>= ofJson?

end Failure

end ContentQuery
