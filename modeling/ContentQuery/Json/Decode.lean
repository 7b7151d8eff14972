import ContentQuery.Json.Reader

/-!
# Decoding JSON values

Records are written as objects, or as arrays of their fields in order. An enumeration is written as
the name of a case; a case without content may also be an object with null under its name.
-/

namespace ContentQuery.Json

namespace Value

/-- The text of a string. -/
def text? : Value → Option String
  | string text => text
  | _ => none

/-- A natural number of 32 bits. -/
def uint32? : Value → Option UInt32
  | natural value => if value < UInt32.size then some (UInt32.ofNat value) else none
  | _ => none

/-- A value or null. -/
def nullable? {Target : Type} (decode : Value → Option Target) : Value → Option (Option Target)
  | null => some none
  | value => (decode value).map some

/-- The name of a case without content. -/
def caseName? : Value → Option String
  | string name => name
  | object [(name, null)] => name
  | _ => none

/-- The texts of the keys of an object, with the values. -/
def keyed? : List (Option String × Value) → Option (List (String × Value)) :=
  List.mapM fun (key, value) => key.map (·, value)

/-- The fields of a record in the given order; `none` stands for a field that is left out. An object
may have a key twice only if no field has that name, and keys that name no field are refused if
`closed`. -/
def record? (closed : Bool) (fields : List String) : Value → Option (List (Option Value))
  | object members => do
    let members ← keyed? members
    let known := members.map Prod.fst |>.filter fields.contains
    if closed && known.length < members.length then none
    if !known.Nodup then none
    return fields.map fun field => members.lookup field
  | array items =>
    if items.length ≤ fields.length then
      some (items.map some ++ List.replicate (fields.length - items.length) none)
    else none
  | _ => none

end Value

end ContentQuery.Json
