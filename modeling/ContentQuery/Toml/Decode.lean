import ContentQuery.Toml.Scalar

/-!
# Decoding TOML values

An enumeration is written as the name of a case; a case without content may also be a table with an
empty table or array under its name.
-/

namespace ContentQuery.Toml

namespace Value

/-- The text of a string. -/
def text? : Value → Option String
  | string text => some text
  | _ => none

/-- The truth value of a boolean. -/
def boolean? : Value → Option Bool
  | boolean value => some value
  | _ => none

/-- The name of a case without content. -/
def caseName? : Value → Option String
  | string name => some name
  | table [(name, table [])] | table [(name, array [])] => some name
  | _ => none

/-- The entries of a table. -/
def entries? : Value → Option (List (String × Value))
  | table entries => some entries
  | _ => none

end Value

/-- Every key is one of the given names. -/
def hasOnly (names : List String) (entries : List (String × Value)) : Bool :=
  entries.all fun (key, _) => names.contains key

/-- A field of a table that may be left out. -/
def field? {Target : Type} (entries : List (String × Value)) (name : String)
    (decode : Value → Option Target) : Option (Option Target) :=
  match entries.lookup name with
  | none => some none
  | some value => (decode value).map some

end ContentQuery.Toml
