import ContentQuery.Options.Basic
import ContentQuery.Toml.Decode
import ContentQuery.Toml.Reader

/-!
# Options in TOML

Options are written as a table in which every key may be left out. Other keys are refused.
-/

namespace ContentQuery

/-- The word for a policy. -/
def UnknownFieldPolicy.name : UnknownFieldPolicy → String
  | reject => "reject"
  | infer => "infer"

/-- The policy with a given word. -/
def UnknownFieldPolicy.ofName? : String → Option UnknownFieldPolicy
  | "reject" => some reject
  | "infer" => some infer
  | _ => none

namespace Options

/-- The names of the options in documents. -/
def fieldNames : List String :=
  ["guard_field", "unknown_fields", "lowercase_terms", "trace_queries"]

/-- The options that the entries of a table describe. -/
def ofToml? (entries : List (String × Toml.Value)) : Option Options := do
  if !Toml.hasOnly fieldNames entries then none
  let defaults : Options := {}
  let guardField ← Toml.field? entries "guard_field" Toml.Value.text?
  let unknownFields ← Toml.field? entries "unknown_fields"
    (·.caseName? >>= UnknownFieldPolicy.ofName?)
  let lowercaseTerms ← Toml.field? entries "lowercase_terms" Toml.Value.boolean?
  let traceQueries ← Toml.field? entries "trace_queries" Toml.Value.boolean?
  return {
    guardField := guardField.getD defaults.guardField
    unknownFields := unknownFields.getD defaults.unknownFields
    lowercaseTerms := lowercaseTerms.getD defaults.lowercaseTerms
    traceQueries := traceQueries.getD defaults.traceQueries }

/-- The options that a TOML document describes. -/
def parse (document : String) : Except OptionsError Options := do
  let some options := Toml.parse? document >>= ofToml? | .error .malformed
  options.validate
  return options

end Options

end ContentQuery
