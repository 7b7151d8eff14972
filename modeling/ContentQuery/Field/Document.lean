import ContentQuery.Field.Catalog
import ContentQuery.Text.Quoted
import ContentQuery.Toml.Decode
import ContentQuery.Toml.Reader

/-!
# Field catalogs in TOML

A catalog is written as a table `fields` with a table for each field, in which only the type is
needed. A field without a name of its own in the index goes by the name it has in the document.
-/

namespace ContentQuery

/-- The field type with a given word. -/
def FieldType.ofName? : String → Option FieldType
  | "bool" => some bool
  | "int" => some int
  | "float" => some float
  | "text" => some text
  | "date_time" => some dateTime
  | "reference" => some reference
  | _ => none

/-- The field type that a value describes. -/
def FieldType.ofToml? (value : Toml.Value) : Option FieldType :=
  value.caseName? >>= ofName?

namespace FieldInfo

/-- The names of the parts of a field description in documents. -/
def fieldNames : List String := ["type", "multivalued", "indexed_name"]

/-- The description of a field that a value gives: a table, or an array of the type, the flag for
several values and the name in the index, in this order. -/
def ofToml? (name : String) : Toml.Value → Option FieldInfo
  | .table entries => do
    if !Toml.hasOnly fieldNames entries then none
    let some type ← Toml.field? entries "type" FieldType.ofToml? | none
    let multivalued ← Toml.field? entries "multivalued" Toml.Value.boolean?
    let indexedName ← Toml.field? entries "indexed_name" Toml.Value.text?
    return { indexedName := indexedName.getD name, type, multivalued := multivalued.getD false }
  | .array (type :: multivalued :: indexedName :: _) => do
    return {
      indexedName := ← indexedName.text?
      type := ← FieldType.ofToml? type
      multivalued := ← multivalued.boolean? }
  | _ => none

end FieldInfo

namespace FieldCatalog

/-- The field descriptions that the entries of a table give. -/
def fieldsOfToml? (entries : List (String × Toml.Value)) :
    Option (List (String × FieldInfo)) := do
  if !Toml.hasOnly ["fields"] entries then none
  let fields ← Toml.field? entries "fields" Toml.Value.entries?
  (fields.getD []).mapM fun (name, value) => do return (name, ← FieldInfo.ofToml? name value)

/-- The catalog with the given fields. -/
def ofList (fields : List (String × FieldInfo)) : FieldCatalog :=
  fields.foldl (fun catalog (name, info) => catalog.insert name info) empty

/-- The catalog that a TOML document describes. -/
def parse (document : String) : Except CatalogError FieldCatalog := do
  let some fields := Toml.parse? document >>= fieldsOfToml? | .error .malformed
  if fields.any fun (name, _) => Text.isBlankText name then .error .emptyFieldName
  return ofList fields

end FieldCatalog

end ContentQuery
