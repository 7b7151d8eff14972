import ContentQuery.Json.Decode
import ContentQuery.Json.Reader
import ContentQuery.Scope.Basic

/-!
# Scopes in JSON

A scope is written as a record whose fields may all be left out. A field that names nothing of a
scope is refused.
-/

namespace ContentQuery

/-- The word for a path usage. -/
def PathUsage.name : PathUsage → String
  | none => "none"
  | inFolderAnd => "in_folder_and"
  | inFolderOr => "in_folder_or"

/-- The path usage with a given word. -/
def PathUsage.ofName? : String → Option PathUsage
  | "none" => some none
  | "in_folder_and" => some inFolderAnd
  | "in_folder_or" => some inFolderOr
  | _ => Option.none

/-- The word for an autofilter mode. -/
def AutofilterMode.name : AutofilterMode → String
  | default => "default"
  | disabled => "disabled"

/-- The autofilter mode with a given word. Filters are enabled by default. -/
def AutofilterMode.ofName? : String → Option AutofilterMode
  | "default" | "enabled" => some default
  | "disabled" => some disabled
  | _ => none

namespace Scope

/-- The names of the fields of a scope in documents. -/
def fieldNames : List String :=
  ["path_usage", "base_path", "raw_query", "skip_override", "top_override", "autofilter_override"]

/-- A field that may be null or left out. -/
def optional? {Target : Type} (decode : Json.Value → Option Target) :
    Option Json.Value → Option (Option Target)
  | none => some none
  | some value => value.nullable? decode

/-- The scope that a JSON value describes. -/
def ofJson? (value : Json.Value) : Option Scope := do
  let [pathUsage, basePath, rawQuery, skip, top, autofilters] ← value.record? true fieldNames
    | none
  return {
    pathUsage := ← match pathUsage with
      | none => some PathUsage.none
      | some usage => usage.caseName? >>= PathUsage.ofName?
    basePath := ← optional? Json.Value.text? basePath
    rawQuery := ← optional? Json.Value.text? rawQuery
    skip := ← optional? Json.Value.uint32? skip
    top := ← optional? Json.Value.uint32? top
    autofilters := ← optional? (·.caseName? >>= AutofilterMode.ofName?) autofilters }

/-- The scope that a JSON document describes. -/
def parse? (document : String) : Option Scope :=
  Json.parse? document >>= ofJson?

end Scope

end ContentQuery
