import ContentQuery.Field.Basic
import Std.Data.ExtTreeMap

/-!
# Field catalogs

A catalog maps the names that queries use to fields of the search index. Catalogs are values: adding
a field or merging two catalogs gives a new one, and two catalogs are equal when they resolve every
name alike.
-/

namespace ContentQuery

/-- Why a document gives no catalog. -/
inductive CatalogError where
  /-- The document cannot be read as a catalog. -/
  | malformed
  | emptyFieldName
deriving DecidableEq, Repr

/-- The wording of a catalog error. -/
def CatalogError.message : CatalogError → String
  | malformed => "invalid field catalog: malformed document"
  | emptyFieldName => "invalid field catalog: field name must not be empty"

/-- A map from field names to field descriptions. -/
structure FieldCatalog where
  fields : Std.ExtTreeMap String FieldInfo
deriving DecidableEq

namespace FieldCatalog

/-- The catalog without fields. -/
def empty : FieldCatalog := ⟨∅⟩

/-- The description of the field that a query calls `name`. -/
def resolve? (catalog : FieldCatalog) (name : String) : Option FieldInfo :=
  catalog.fields[name]?

/-- Describes the field `name`; an earlier description gives way. -/
def insert (catalog : FieldCatalog) (name : String) (info : FieldInfo) : FieldCatalog :=
  ⟨catalog.fields.insert name info⟩

/-- Adds a single-valued field that is indexed under its own name. -/
def add (catalog : FieldCatalog) (name : String) (type : FieldType) : FieldCatalog :=
  catalog.insert name { indexedName := name, type }

/-- All fields of both catalogs; the description in `overlay` wins. -/
def merge (catalog overlay : FieldCatalog) : FieldCatalog :=
  ⟨catalog.fields ∪ overlay.fields⟩

/-- The number of fields. -/
def size (catalog : FieldCatalog) : Nat :=
  catalog.fields.size

/-- A catalog that resolves no name. -/
def isEmpty (catalog : FieldCatalog) : Bool :=
  catalog.fields.isEmpty

/-- The fields that every content item has. -/
def standard : FieldCatalog :=
  empty
    |>.add "Id" .int
    |>.add "ParentId" .int
    |>.add "Index" .int
    |>.add "Depth" .int
    |>.add "Name" .text
    |>.add "DisplayName" .text
    |>.add "Path" .text
    |>.add "Description" .text
    |>.add "Version" .text
    |>.add "Icon" .text
    |>.add "IsFolder" .bool
    |>.add "Hidden" .bool
    |>.add "CreationDate" .dateTime
    |>.add "ModificationDate" .dateTime
    |>.add "CreatedBy" .reference
    |>.add "ModifiedBy" .reference
    |>.add "Owner" .reference

@[ext]
theorem ext_resolve? {left right : FieldCatalog}
    (alike : ∀ name, left.resolve? name = right.resolve? name) : left = right := by
  cases left
  cases right
  congr
  exact Std.ExtTreeMap.ext_getElem? alike

@[simp]
theorem resolve?_empty (name : String) : empty.resolve? name = none := by
  simp [empty, resolve?]

theorem resolve?_insert (catalog : FieldCatalog) (name : String) (info : FieldInfo)
    (wanted : String) :
    (catalog.insert name info).resolve? wanted =
      if name = wanted then some info else catalog.resolve? wanted := by
  simp [insert, resolve?, Std.ExtTreeMap.getElem?_insert]

@[simp]
theorem resolve?_merge (catalog overlay : FieldCatalog) (name : String) :
    (catalog.merge overlay).resolve? name =
      (overlay.resolve? name).or (catalog.resolve? name) := by
  simp [merge, resolve?, Std.ExtTreeMap.getElem?_union]

end FieldCatalog

end ContentQuery
